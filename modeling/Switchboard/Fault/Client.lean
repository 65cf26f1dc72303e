import Switchboard.Fault.Connect
import Switchboard.Text.Octets
import Switchboard.Toml.Complaint

/-!
# Faults of the program

The program ends with a fault of its configuration, of a file, or of a
connection.  Each has an exit code, and some are worth another try.
-/

namespace Switchboard

/-- What is wrong with a configuration. -/
inductive ConfigFault
  /-- A file cannot be read. -/
  | unreadable (path : Text.Octets) (fault : FileFault)
  /-- A document cannot be used. -/
  | document (fault : Toml.Fault)
  /-- Only one of certificate and key is given. -/
  | halfIdentity
  /-- A path is no text, so that it cannot be written into a configuration. -/
  | pathNotText
  /-- The log cannot be written to its file. -/
  | logFile (fault : FileFault)
  /-- A reason that is stated. -/
  | stated (reason : String)

/-- The text of a configuration's fault. -/
def ConfigFault.message : ConfigFault → String
  | .unreadable path fault =>
      "Failed to read " ++ Text.decodeLossy path ++ ": " ++ fault.message
  | .document fault => fault.message
  | .halfIdentity => "client_cert and client_key must be set together"
  | .pathNotText => "TOML serialize error: path contains invalid UTF-8 characters"
  | .logFile fault => "Failed to create log file: " ++ fault.message
  | .stated reason => reason

/-- The kinds of faults of input and output that are worth another try, and all
others. -/
inductive InputOutputKind
  | connectionRefused
  | connectionReset
  | connectionAborted
  | timedOut
  | other
  deriving DecidableEq, Repr

/-- Whether a fault of input and output is worth another try. -/
def InputOutputKind.isTransient : InputOutputKind → Bool
  | .connectionRefused | .connectionReset | .connectionAborted | .timedOut => true
  | .other => false

/-- With what the program ends when it does not succeed. -/
inductive ClientError
  /-- The configuration is at fault. -/
  | config (fault : ConfigFault)
  /-- Input or output failed. -/
  | inputOutput (kind : InputOutputKind) (message : String)
  /-- A connection could not be had. -/
  | connect (error : ConnectError)
  /-- Something else happened. -/
  | other (message : String)

namespace ClientError

/-- A fault of a file as a fault of input and output. -/
def ofFile (fault : FileFault) : ClientError :=
  .inputOutput .other fault.message

/-- The text of an error. -/
def message : ClientError → String
  | .config fault => "Configuration error: " ++ fault.message
  | .inputOutput _ text => "I/O error: " ++ text
  | .connect error => "Connection error: " ++ error.message
  | .other text => text

/-- The exit code for endpoints that may come back. -/
def unreachableCode : Nat := 1

/-- The exit code for all other errors. -/
def fatalCode : Nat := 2

/-- The exit code of an error. -/
def exitCode : ClientError → Nat
  | .connect error =>
      match error with
      | .cancelled _ => unreachableCode
      | _ => if error.isDialFailure then unreachableCode else fatalCode
  | .config _ | .inputOutput _ _ | .other _ => fatalCode

/-- Whether an error is worth another try. -/
def isTransient : ClientError → Bool
  | .connect error => error.isDialFailure
  | .inputOutput kind _ => kind.isTransient
  | .config _ | .other _ => false

/-- Whether there is an error below an error. -/
def hasSource : ClientError → Bool
  | .connect _ | .inputOutput _ _ => true
  | .config _ | .other _ => false

end ClientError
end Switchboard
