/-!
# Statuses of requests

A request ends with a status: a code and a message.  Two codes say that the
connection itself failed.
-/

namespace Switchboard

/-- The codes of statuses. -/
inductive Code
  | ok
  | cancelled
  | unknown
  | invalidArgument
  | deadlineExceeded
  | notFound
  | alreadyExists
  | permissionDenied
  | resourceExhausted
  | failedPrecondition
  | aborted
  | outOfRange
  | unimplemented
  | internal
  | unavailable
  | dataLoss
  | unauthenticated
  deriving DecidableEq, Repr

namespace Code

/-- All codes, in the order of their numbers. -/
def all : List Code :=
  [.ok, .cancelled, .unknown, .invalidArgument, .deadlineExceeded, .notFound,
    .alreadyExists, .permissionDenied, .resourceExhausted, .failedPrecondition,
    .aborted, .outOfRange, .unimplemented, .internal, .unavailable, .dataLoss,
    .unauthenticated]

/-- The code with a number; numbers without a code are unknown. -/
def ofNumber : Int → Code
  | .ofNat number => all.getD number .unknown
  | .negSucc _ => .unknown

/-- The name of a code. -/
def name : Code → String
  | .ok => "Ok"
  | .cancelled => "Cancelled"
  | .unknown => "Unknown"
  | .invalidArgument => "InvalidArgument"
  | .deadlineExceeded => "DeadlineExceeded"
  | .notFound => "NotFound"
  | .alreadyExists => "AlreadyExists"
  | .permissionDenied => "PermissionDenied"
  | .resourceExhausted => "ResourceExhausted"
  | .failedPrecondition => "FailedPrecondition"
  | .aborted => "Aborted"
  | .outOfRange => "OutOfRange"
  | .unimplemented => "Unimplemented"
  | .internal => "Internal"
  | .unavailable => "Unavailable"
  | .dataLoss => "DataLoss"
  | .unauthenticated => "Unauthenticated"

/-- What a code means, in words. -/
def description : Code → String
  | .ok => "The operation completed successfully"
  | .cancelled => "The operation was cancelled"
  | .unknown => "Unknown error"
  | .invalidArgument => "Client specified an invalid argument"
  | .deadlineExceeded => "Deadline expired before operation could complete"
  | .notFound => "Some requested entity was not found"
  | .alreadyExists => "Some entity that we attempted to create already exists"
  | .permissionDenied =>
      "The caller does not have permission to execute the specified operation"
  | .resourceExhausted => "Some resource has been exhausted"
  | .failedPrecondition =>
      "The system is not in a state required for the operation's execution"
  | .aborted => "The operation was aborted"
  | .outOfRange => "Operation was attempted past the valid range"
  | .unimplemented => "Operation is not implemented or not supported"
  | .internal => "Internal error"
  | .unavailable => "The service is currently unavailable"
  | .dataLoss => "Unrecoverable data loss or corruption"
  | .unauthenticated =>
      "The request does not have valid authentication credentials"

end Code

/-- How a request ended. -/
structure Status where
  /-- Its code. -/
  code : Code
  /-- Its message. -/
  message : String
  deriving DecidableEq, Repr

/-- Whether a code says that the connection itself failed. -/
def Code.isConnectionFailure : Code → Bool
  | .unavailable | .deadlineExceeded => true
  | _ => false

/-- Whether a status says that the connection itself failed. -/
def Status.isConnectionFailure (status : Status) : Bool :=
  status.code.isConnectionFailure

end Switchboard
