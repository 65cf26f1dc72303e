import Switchboard.Text.Octets

/-!
# The environment of the process

Variables are set to octets.  A variable can be read only when its name is one
that a process can have and its value is a text.
-/

namespace Switchboard

/-- The variables that are set, the latest setting first. -/
structure Environment where
  /-- Names and values. -/
  settings : List (String × Text.Octets)

namespace Environment

/-- No variable is set. -/
def empty : Environment :=
  ⟨[]⟩

/-- A name that a process can give to a variable. -/
def nameable (name : String) : Bool :=
  !name.isEmpty && name.toList.all fun char => char != '=' && char.toNat != 0

/-- The environment without one variable. -/
def unset
    (environment : Environment)
    (name : String) : Environment :=
  ⟨environment.settings.filter fun (other, _) => other != name⟩

/-- The environment with one variable set. -/
def set
    (environment : Environment)
    (name : String)
    (value : Text.Octets) : Environment :=
  ⟨(name, value) :: (environment.unset name).settings⟩

/-- The octets of a variable. -/
def raw?
    (environment : Environment)
    (name : String) : Option Text.Octets :=
  if nameable name then environment.settings.lookup name else none

/-- The text of a variable, if it can be read. -/
def get?
    (environment : Environment)
    (name : String) : Option String :=
  (environment.raw? name).bind Text.decode?

end Environment
end Switchboard
