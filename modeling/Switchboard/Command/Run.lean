import Switchboard.Command.Help
import Switchboard.Command.Probe
import Switchboard.Config.Load
import Switchboard.Log.Filter
import Switchboard.Network.Isolated

/-!
# Running the program

The program finds variables, files and a network on its host.  It ends with an exit
code, with what it has printed, and with the files as they are then.
-/

namespace Switchboard
namespace Command

/-- What the program finds when it starts. -/
structure Host where
  /-- The variables of the process. -/
  environment : Environment
  /-- The files. -/
  files : FileTree
  /-- The network, which has no route unless another one is given. -/
  network : Network := .isolated

/-- Why the program has not done what it was asked to do. -/
inductive Failure
  /-- The arguments make no sense. -/
  | misuse
  /-- It ran into an error. -/
  | fault (error : ClientError)

/-- How the program ends. -/
structure Exit where
  /-- What is printed on standard output. -/
  output : String
  /-- What the log has on standard error. -/
  log : List Notice
  /-- The files. -/
  files : FileTree
  /-- Why it has not done what it was asked to do, if so. -/
  failure? : Option Failure

namespace Failure

/-- The exit code of a failure. -/
def exitCode : Failure → Nat
  | .misuse => ClientError.fatalCode
  | .fault error => error.exitCode

/-- What is printed about a failure. -/
def text : Failure → String
  | .misuse => Help.usage none
  | .fault error => "Error: " ++ error.message ++ "\n"

end Failure

namespace Exit

/-- The exit code: zero without a failure. -/
def code (exit : Exit) : Nat :=
  (exit.failure?.map Failure.exitCode).getD 0

/-- What is printed on standard error. -/
def complaints (exit : Exit) : String :=
  String.join (exit.log.map fun notice => notice.terminalLine ++ "\n") ++
    (exit.failure?.map Failure.text).getD ""

/-- The program prints something and ends. -/
def printing (host : Host) (output : String) : Exit :=
  ⟨output, [], host.files, none⟩

/-- The program fails. -/
def failing (host : Host) (failure : Failure) : Exit :=
  ⟨"", [], host.files, some failure⟩

end Exit

/-- The variable that holds the filter of the log. -/
def logVariable : String := "RUST_LOG"

/-- The level up to which the program's own notices are recorded. -/
def logLevel (config : Config) : Level :=
  if config.verbose then .debug else config.logLevel

/-- The filter of the log: that of the environment if it can be read, or else the level
of the configuration. -/
def logFilter (environment : Environment) (config : Config) : Filter :=
  ((environment.get? logVariable).bind Filter.ofText?).getD (.upTo (logLevel config))

/-- The files once the log can be written; the file of an earlier log is emptied. -/
def openLog (files : FileTree) (config : Config) : Except ClientError FileTree :=
  match config.logFile? with
  | none => .ok files
  | some path => (files.write path []).mapError fun fault => .config (.logFile fault)

/-- A log as the content of a file. -/
def logContent (notices : List Notice) : Text.Octets :=
  Text.octets (String.join (notices.map fun notice => notice.line ++ "\n"))

/-- The end of the program after a probe; the log goes to its file or to standard
error. -/
def closeLog
    (files : FileTree)
    (config : Config)
    (notices : List Notice)
    (exit : Exit) : Exit :=
  match config.logFile? with
  | none => { exit with log := notices }
  | some path =>
      match files.write path (logContent notices) with
      | .ok written => { exit with files := written }
      | .error _ => exit

/-- The configuration of an invocation. -/
def Invocation.config
    (invocation : Invocation)
    (files : FileTree) : Except ClientError Config := do
  let config ←
    match invocation.configPath? with
    | some path => Config.load files path
    | none => .ok .default
  return { config with verbose := config.verbose || invocation.verbose }

/-- The paths that an invocation uses, as far as they can be told from some files. -/
def Invocation.paths
    (invocation : Invocation)
    (files : FileTree) : List Text.Octets :=
  invocation.configPath?.toList ++
    match invocation.task, invocation.config files with
    | .probe _ _ _, .ok config =>
        config.logFile?.toList ++
          match config.tls? with
          | some tls => tls.authority :: (tls.certificate?.toList ++ tls.key?.toList)
          | none => []
    | _, _ => []

/-- Probes an address under a configuration. -/
def probe
    (host : Host)
    (config : Config)
    (family : Family)
    (address : String) : Exit :=
  match openLog host.files config with
  | .error error => .failing host (.fault error)
  | .ok files =>
      let host := { host with files }
      match config.authorizer files with
      | .error error => .failing host (.fault error)
      | .ok authorizer =>
          let probed :=
            Probed.ofClient (config.client authorizer) ⟨host.network, false⟩
              host.environment family address
          let recorded := probed.notices.filter (logFilter host.environment config).allows
          closeLog files config recorded <|
            match probed.outcome with
            | .ok (connection, state) =>
                .printing host (connection.endpoint ++ " " ++ state.display ++ "\n")
            | .error error => .failing host (.fault (.connect error))

/-- Does what an invocation asks for. -/
def Invocation.run (invocation : Invocation) (host : Host) : Exit :=
  match invocation.config host.files with
  | .error error => .failing host (.fault error)
  | .ok config =>
      match invocation.task with
      | .resolve family address => .printing host (family.resolve address ++ "\n")
      | .probe family address _ => probe host config family address
      | .config =>
          match config.redacted.document with
          | .ok text => .printing host text
          | .error error => .failing host (.fault error)

/-- The paths that the program uses when it has arguments, as far as they can be told
from what is known of its host. -/
def paths (host : Host) (arguments : List Text.Octets) : List Text.Octets :=
  match Invocation.ofArguments host.environment arguments with
  | .ok invocation => invocation.paths host.files
  | .error _ => []

/-- Runs the program with arguments. -/
def run (host : Host) (arguments : List Text.Octets) : Exit :=
  match Invocation.ofArguments host.environment arguments with
  | .ok invocation => invocation.run host
  | .error .misuse => .failing host .misuse
  | .error .version => .printing host version
  | .error (.help topic) => .printing host (Help.text host.environment topic)

end Command
end Switchboard
