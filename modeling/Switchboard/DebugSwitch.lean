import Switchboard.Environment
import Switchboard.Text.Blank
import Switchboard.Text.Quoted
import Switchboard.Text.Record

/-!
# The debug switch

Debug mode is on when the configuration says so or when a variable of the
environment, without the blanks around it, is the word `on` in any mixture of
capitals and small letters.
-/

namespace Switchboard

/-- The variable that switches debug mode unless another one is named. -/
def debugVariable : String :=
  "AGENTLINK_DEBUG_MODE"

/-- What decides whether debug mode is on. -/
structure DebugSwitch where
  /-- The variable that can switch debug mode on. -/
  variableName : String
  /-- Whether the configuration switches debug mode on. -/
  flag : Bool
  deriving DecidableEq, Repr

namespace DebugSwitch

/-- A switch with the usual variable. -/
def ofFlag (flag : Bool) : DebugSwitch :=
  ⟨debugVariable, flag⟩

/-- The switch that leaves the decision to the usual variable. -/
def default : DebugSwitch :=
  ofFlag false

/-- Whether the value of a variable switches debug mode on. -/
def saysOn (value : String) : Bool :=
  (Text.trim value.toList).map Text.lowerAscii == ['o', 'n']

/-- Whether debug mode is on. -/
def isOn
    (switch : DebugSwitch)
    (environment : Environment) : Bool :=
  switch.flag || (environment.get? switch.variableName).any saysOn

/-- The text of a switch. -/
def render (switch : DebugSwitch) : String :=
  Text.record "DebugMode"
    [("env_var", Text.quoted switch.variableName),
     ("config_flag", Text.truth switch.flag)]

end DebugSwitch
end Switchboard
