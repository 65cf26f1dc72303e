/-!
# Faults of the operating system

Opening a file or a TCP connection can fail in ways that the operating system
numbers.  The text of such a fault ends with its number.
-/

namespace Switchboard

/-- The numbered faults of the operating system. -/
inductive SystemFault
  | notFound
  | notDirectory
  | isDirectory
  | nameTooLong
  | addressUnavailable
  | networkUnreachable
  | connectionRefused
  deriving DecidableEq, Repr

namespace SystemFault

/-- The number of a fault. -/
def number : SystemFault → Nat
  | .notFound => 2
  | .notDirectory => 20
  | .isDirectory => 21
  | .nameTooLong => 36
  | .addressUnavailable => 99
  | .networkUnreachable => 101
  | .connectionRefused => 111

/-- A fault in words. -/
def description : SystemFault → String
  | .notFound => "No such file or directory"
  | .notDirectory => "Not a directory"
  | .isDirectory => "Is a directory"
  | .nameTooLong => "File name too long"
  | .addressUnavailable => "Cannot assign requested address"
  | .networkUnreachable => "Network is unreachable"
  | .connectionRefused => "Connection refused"

/-- The text of a fault. -/
def message (fault : SystemFault) : String :=
  fault.description ++ " (os error " ++ toString fault.number ++ ")"

end SystemFault

/-- Why a file cannot be read as a text or cannot be written. -/
inductive FileFault
  /-- The operating system refuses. -/
  | system (fault : SystemFault)
  /-- The path has an octet zero, which ends a path for the operating system. -/
  | zeroInPath
  /-- The octets of the file are no text. -/
  | notText
  deriving DecidableEq, Repr

/-- The text of a file's fault. -/
def FileFault.message : FileFault → String
  | .system fault => fault.message
  | .zeroInPath => "file name contained an unexpected NUL byte"
  | .notText => "stream did not contain valid UTF-8"

end Switchboard
