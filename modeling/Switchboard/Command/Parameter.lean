import Switchboard.Text.Fields
import Switchboard.Text.Octets

/-!
# Commands and their parameters

The command line names a command, and each command has its parameters: flags that
stand alone, options that have a value, and operands.
-/

namespace Switchboard
namespace Command

/-- The words that name a command. -/
inductive Verb
  | resolve
  | probe
  | config
  | help
  deriving DecidableEq, Repr

namespace Verb

/-- All verbs, in the order in which help lists them. -/
def all : List Verb :=
  [.resolve, .probe, .config, .help]

/-- A verb on the command line. -/
def word : Verb → String
  | .resolve => "resolve"
  | .probe => "probe"
  | .config => "config"
  | .help => "help"

/-- The verb that an argument names. -/
def ofWord? (argument : Text.Octets) : Option Verb :=
  all.find? fun verb => Text.octets verb.word = argument

end Verb

/-- What a part of the command line belongs to: to a command, or to the program as a
whole. -/
abbrev Topic := Option Verb

/-- The parameters of all commands. -/
inductive Parameter
  /-- The file of the configuration. -/
  | config
  /-- Whether the log records more. -/
  | verbose
  /-- Asks for help. -/
  | help
  /-- Asks for the version. -/
  | version
  /-- Chooses the authentication service. -/
  | auth
  /-- How many seconds a probe may take. -/
  | timeout
  /-- The address to resolve or to probe. -/
  | address
  /-- The commands to get help for. -/
  | verbs
  deriving DecidableEq, Repr

/-- How a parameter stands on the command line. -/
inductive Form
  /-- By its name alone. -/
  | flag
  /-- By its name, with a value that help calls by a name. -/
  | option (value : String)
  /-- By its value alone, which help spells in a way. -/
  | operand (spelling : String)
  deriving DecidableEq, Repr

namespace Parameter

/-- The form of a parameter. -/
def form : Parameter → Form
  | .config => .option "CONFIG"
  | .timeout => .option "TIMEOUT"
  | .verbose | .help | .version | .auth => .flag
  | .address => .operand "<ADDRESS>"
  | .verbs => .operand "[COMMAND]..."

/-- Whether a parameter has a value behind its name. -/
def hasValue (parameter : Parameter) : Bool :=
  match parameter.form with
  | .option _ => true
  | .flag | .operand _ => false

/-- Whether a parameter is an operand. -/
def isOperand (parameter : Parameter) : Bool :=
  match parameter.form with
  | .operand _ => true
  | .flag | .option _ => false

/-- The name of a parameter, behind two dashes. -/
def name? : Parameter → Option String
  | .config => some "config"
  | .verbose => some "verbose"
  | .help => some "help"
  | .version => some "version"
  | .auth => some "auth"
  | .timeout => some "timeout"
  | .address | .verbs => none

/-- The letter of a parameter, behind one dash. -/
def letter? : Parameter → Option Char
  | .config => some 'c'
  | .verbose => some 'v'
  | .help => some 'h'
  | .version => some 'V'
  | .auth | .timeout | .address | .verbs => none

/-- A number of seconds as it is given on the command line. -/
def seconds? (value : Text.Octets) : Option UInt64 := do
  let text ← Text.decode? value
  let number ← Text.unsigned? (Nat.pow 2 64) text.toList
  return .ofNat number

/-- Whether a value can be given to a parameter: a path is not empty, a number of
seconds has 64 bits, and an address is a text. -/
def accepts (parameter : Parameter) (value : Text.Octets) : Bool :=
  match parameter with
  | .config => !value.isEmpty
  | .timeout => (seconds? value).isSome
  | .address => (Text.decode? value).isSome
  | .verbose | .help | .version | .auth | .verbs => true

end Parameter

/-- The parameters that may stand in a part of the command line, in the order in which
help lists them. -/
def parameters : Topic → List Parameter
  | none => [.config, .verbose, .help, .version]
  | some .resolve => [.address, .auth, .config, .verbose, .help]
  | some .probe => [.address, .auth, .config, .timeout, .verbose, .help]
  | some .config => [.config, .verbose, .help]
  | some .help => [.verbs]

end Command
end Switchboard
