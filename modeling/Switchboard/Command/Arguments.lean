import Switchboard.Command.Parameter
import Switchboard.Endpoint
import Switchboard.Environment

/-!
# Arguments

The arguments are read from left to right.  What stands before the verb belongs to
the program, what stands behind it to the command.  A value that stands apart from
its option is held, and judged when the next parameter of the same part is read or
when that part ends.  Asking for help or for the version ends the reading.
-/

namespace Switchboard
namespace Command

/-- What is to be done. -/
inductive Task
  /-- The endpoint of an address is printed. -/
  | resolve (family : Family) (address : String)
  /-- The endpoint of an address is dialed, within a number of seconds. -/
  | probe (family : Family) (address : String) (seconds : UInt64)
  /-- The configuration is printed. -/
  | config

/-- What the arguments ask for. -/
structure Invocation where
  /-- The file of the configuration. -/
  configPath? : Option Text.Octets
  /-- Whether the log records more. -/
  verbose : Bool
  /-- What is to be done. -/
  task : Task

/-- Why the reading ends before there is anything to do. -/
inductive Stop
  /-- The arguments make no sense. -/
  | misuse
  /-- Help is asked for. -/
  | help (topic : Topic)
  /-- The version is asked for. -/
  | version
  deriving DecidableEq, Repr

/-- What has been read of a part of the command line. -/
structure Reading where
  /-- The parameters with their values; a flag has an empty one. -/
  given : List (Parameter × Text.Octets)
  /-- The parameter whose value is to be judged or, without one, still to come. -/
  held? : Option (Parameter × Option Text.Octets)
  /-- Whether only operands follow. -/
  operandsOnly : Bool

namespace Reading

/-- Nothing has been read. -/
def empty : Reading :=
  ⟨[], none, false⟩

/-- Whether a parameter has been given. -/
def has (reading : Reading) (parameter : Parameter) : Bool :=
  reading.given.any (·.1 = parameter)

/-- The value of a parameter. -/
def value? (reading : Reading) (parameter : Parameter) : Option Text.Octets :=
  reading.given.lookup parameter

/-- Takes a value; each parameter is given once. -/
def take
    (reading : Reading)
    (parameter : Parameter)
    (value : Text.Octets) : Except Stop Reading :=
  if reading.has parameter || !parameter.accepts value then .error .misuse
  else .ok { reading with given := (parameter, value) :: reading.given }

/-- Judges what is held. -/
def settle (reading : Reading) : Except Stop Reading :=
  match reading.held? with
  | none => .ok reading
  | some (_, none) => .error .misuse
  | some (parameter, some value) => { reading with held? := none }.take parameter value

/-- Holds a parameter and its value if it has come. -/
def hold
    (reading : Reading)
    (parameter : Parameter)
    (value? : Option Text.Octets) : Except Stop Reading := do
  return { ← reading.settle with held? := some (parameter, value?) }

/-- Reads a flag. -/
def raise
    (reading : Reading)
    (topic : Topic)
    (parameter : Parameter) : Except Stop Reading := do
  let settled ← reading.settle
  match parameter with
  | .help => .error (.help topic)
  | .version => .error .version
  | _ => settled.take parameter []

/-- Reads an option to which its value is attached. -/
def attach
    (reading : Reading)
    (parameter : Parameter)
    (value : Text.Octets) : Except Stop Reading := do
  (← reading.settle).take parameter value

/-- The octet of a dash. -/
def dash : UInt8 := 0x2D

/-- The octet between a name and its value. -/
def equals : UInt8 := 0x3D

/-- The letters behind one dash.  Behind an option's letter follows its value, with or
without an equals sign. -/
def letters
    (topic : Topic)
    (reading : Reading) : Text.Octets → Except Stop Reading
  | [] => .ok reading
  | letter :: rest =>
      let named := fun parameter : Parameter =>
        parameter.letter?.any fun char => char.toNat = letter.toNat
      match (parameters topic).find? named with
      | none => .error .misuse
      | some parameter =>
          if parameter.hasValue then
            match rest with
            | [] => reading.hold parameter none
            | sign :: value =>
                reading.attach parameter (if sign = equals then value else rest)
          else do
            letters topic (← reading.raise topic parameter) rest

/-- The name behind two dashes, and its value if there is an equals sign. -/
def word
    (topic : Topic)
    (reading : Reading)
    (argument : Text.Octets) : Except Stop Reading :=
  let (name, rest) := argument.span (· ≠ equals)
  let named := fun parameter : Parameter =>
    parameter.name?.any fun word => Text.octets word = name
  match (parameters topic).find? named with
  | none => .error .misuse
  | some parameter =>
      match parameter.hasValue, rest with
      | true, [] => reading.hold parameter none
      | true, _ :: value => reading.attach parameter value
      | false, [] => reading.raise topic parameter
      | false, _ :: _ => .error .misuse

/-- Reads an operand. -/
def operand
    (topic : Topic)
    (reading : Reading)
    (argument : Text.Octets) : Except Stop Reading :=
  match (parameters topic).find? Parameter.isOperand with
  | none => .error .misuse
  | some parameter => do
      let settled ← reading.settle
      if settled.has parameter then .error .misuse
      else settled.hold parameter (some argument)

/-- Reads one more argument.  A single dash is no parameter's name. -/
def step
    (topic : Topic)
    (reading : Reading)
    (argument : Text.Octets) : Except Stop Reading :=
  if reading.operandsOnly then
    reading.operand topic argument
  else
    match argument with
    | first :: second :: rest =>
        if first ≠ dash then plain
        else if second ≠ dash then reading.letters topic (second :: rest)
        else if rest.isEmpty then .ok { reading with operandsOnly := true }
        else reading.word topic rest
    | _ => plain
where
  /-- An argument that names no parameter is the value that is to come, or an operand. -/
  plain : Except Stop Reading :=
    match reading.held? with
    | some (parameter, none) =>
        .ok { reading with held? := some (parameter, some argument) }
    | _ => reading.operand topic argument

/-- Whether a verb may come next. -/
def mayEnd (reading : Reading) : Bool :=
  !reading.operandsOnly &&
    match reading.held? with
    | some (_, none) => false
    | some (_, some _) | none => true

/-- Reads the program's part: up to the verb, with the arguments behind it. -/
def program
    (reading : Reading) : List Text.Octets → Except Stop (Reading × Verb × List Text.Octets)
  | [] => .error .misuse
  | argument :: rest =>
      match if reading.mayEnd then Verb.ofWord? argument else none with
      | some verb => .ok (reading, verb, rest)
      | none => do program (← reading.step none argument) rest

/-- Reads the arguments of a command. -/
def command (verb : Verb) (arguments : List Text.Octets) : Except Stop Reading := do
  (← arguments.foldlM (step (some verb)) empty).settle

/-- The family that has been chosen. -/
def family (reading : Reading) : Family :=
  if reading.has .auth then .authentication else .agent

/-- The address that has been given. -/
def address (reading : Reading) : Except Stop String :=
  match (reading.value? .address).bind Text.decode? with
  | some address => .ok address
  | none => .error .misuse

/-- How many seconds a probe may take when nothing else is given. -/
def defaultSeconds : UInt64 := 30

/-- How many seconds have been given. -/
def seconds (reading : Reading) : UInt64 :=
  ((reading.value? .timeout).bind Parameter.seconds?).getD defaultSeconds

end Reading

/-- What help is asked for by the arguments behind its verb. -/
def helpTopic : List Text.Octets → Except Stop Topic
  | [] => .ok none
  | [argument] =>
      match Verb.ofWord? argument with
      | some verb => .ok (some verb)
      | none => .error .misuse
  | _ => .error .misuse

/-- What a verb asks for, with what has been read behind it. -/
def Verb.task (verb : Verb) (reading : Reading) : Except Stop Task :=
  match verb with
  | .resolve => do return .resolve reading.family (← reading.address)
  | .probe => do return .probe reading.family (← reading.address) reading.seconds
  | .config => .ok .config
  | .help => .error .misuse

/-- The variable that names the file of the configuration. -/
def configVariable : String := "AGENTLINK_CONFIG"

/-- The file of the configuration: what stands behind the verb counts before what
stands in front of it, and the environment counts last.  An empty variable is refused
where the option is missing. -/
def chosenPath?
    (environment : Environment)
    (outer inner : Reading) : Except Stop (Option Text.Octets) :=
  let fromEnvironment? := environment.raw? configVariable
  let complete := outer.has .config && inner.has .config
  if !complete && fromEnvironment?.any (!Parameter.accepts .config ·) then .error .misuse
  else .ok ((inner.value? .config).or ((outer.value? .config).or fromEnvironment?))

/-- What arguments ask for. -/
def Invocation.ofArguments
    (environment : Environment)
    (arguments : List Text.Octets) : Except Stop Invocation := do
  let (before, verb, rest) ← Reading.empty.program arguments
  if verb = .help then
    .error (.help (← helpTopic rest))
  else
    let inner ← Reading.command verb rest
    let task ← verb.task inner
    let outer ← before.settle
    return ⟨← chosenPath? environment outer inner,
      outer.has .verbose || inner.has .verbose, task⟩

end Command
end Switchboard
