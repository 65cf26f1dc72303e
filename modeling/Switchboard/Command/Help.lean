import Switchboard.Command.Arguments

/-!
# Help

The help of a topic says what it does, how it is called, and which commands,
operands and options it has, each with a description beside it.
-/

namespace Switchboard
namespace Command

/-- The name of the program. -/
def programName : String := "agentlink"

/-- The version of the program, in a line. -/
def version : String :=
  programName ++ " 0.1.0\n"

/-- What a command does. -/
def Verb.purpose : Verb → String
  | .resolve => "Print the canonical endpoint an address resolves to"
  | .probe => "Dial an endpoint through the connection cache and report its state"
  | .config => "Print the effective configuration as TOML"
  | .help => "Print this message or the help of the given subcommand(s)"

namespace Parameter

/-- A parameter as help spells it; what has no letter leaves the place of one empty. -/
def spelling (parameter : Parameter) : String :=
  let letter :=
    match parameter.letter? with
    | some letter => "-" ++ String.singleton letter ++ ", "
    | none => "    "
  let named := letter ++ "--" ++ parameter.name?.getD ""
  match parameter.form with
  | .flag => named
  | .option value => named ++ " <" ++ value ++ ">"
  | .operand spelling => spelling

/-- What a parameter is for; what the environment sets is shown. -/
def description
    (environment : Environment)
    (topic : Topic) : Parameter → String
  | .config =>
      "Client configuration file (TOML) [env: " ++ configVariable ++ "=" ++
        Text.decodeLossy ((environment.raw? configVariable).getD []) ++ "]"
  | .verbose => "Enable debug logging"
  | .help => "Print help"
  | .version => "Print version"
  | .auth =>
      if topic = some .probe then "Probe the authentication service instead of an agent"
      else "Resolve against the authentication service port"
  | .timeout =>
      "Give up after this many seconds [default: " ++
        toString Reading.defaultSeconds.toNat ++ "]"
  | .address => "Agent address, with or without a port"
  | .verbs => "Print help for the subcommand(s)"

end Parameter

namespace Help

/-- A number of blanks. -/
def blanks (count : Nat) : String :=
  String.ofList (List.replicate count ' ')

/-- Rows of two columns.  The second column begins two blanks behind the longest entry of
the first, also after a line break within it. -/
def table (rows : List (String × String)) : String :=
  let width := (rows.map (·.1.length)).foldl max 0
  let broken := "\n" ++ blanks (width + 4)
  let row := fun (left, right) =>
    let lines := (Text.fields '\n' right.toList).map String.ofList
    "  " ++ left ++ blanks (width - left.length + 2) ++ broken.intercalate lines ++ "\n"
  String.join (rows.map row)

/-- A table under its title; without rows there is none. -/
def titled (title : String) (rows : List (String × String)) : String :=
  if rows.isEmpty then "" else "\n" ++ title ++ ":\n" ++ table rows

/-- What the program or a command does. -/
def purpose : Topic → String
  | none => "Connect to cloud agents and the authentication service"
  | some verb => verb.purpose

/-- The parameters of a topic that have names. -/
def options (topic : Topic) : List Parameter :=
  (parameters topic).filter fun parameter => !parameter.isOperand

/-- The parameters of a topic that have none. -/
def operands (topic : Topic) : List Parameter :=
  (parameters topic).filter Parameter.isOperand

/-- How a topic is called, in a line. -/
def usage (topic : Topic) : String :=
  let parts :=
    [programName] ++
    (topic.map Verb.word).toList ++
    (if (options topic).isEmpty then [] else ["[OPTIONS]"]) ++
    (operands topic).map Parameter.spelling ++
    (if topic.isNone then ["<COMMAND>"] else [])
  "Usage: " ++ " ".intercalate parts ++ "\n"

/-- The help of a topic. -/
def text (environment : Environment) (topic : Topic) : String :=
  let described := fun parameter : Parameter =>
    (parameter.spelling, parameter.description environment topic)
  let verbs := if topic.isNone then Verb.all else []
  purpose topic ++ "\n\n" ++ usage topic ++
    titled "Commands" (verbs.map fun verb => (verb.word, verb.purpose)) ++
    titled "Arguments" ((operands topic).map described) ++
    titled "Options" ((options topic).map described)

end Help
end Command
end Switchboard
