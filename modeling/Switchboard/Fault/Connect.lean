import Switchboard.Fault.System

/-!
# Faults of connecting

A lookup of a connection fails while it obtains credentials, while it dials, or
because it is cancelled.  Only the faults of dialing itself say that the endpoint
may come back.
-/

namespace Switchboard

/-- Why a TCP connection to an endpoint cannot be opened. -/
inductive SocketFault
  | noHost
  | noPort
  | system (fault : SystemFault)
  deriving DecidableEq, Repr

/-- The text of a socket's fault. -/
def SocketFault.message : SocketFault → String
  | .noHost => "endpoint has no host"
  | .noPort => "endpoint has no port"
  | .system fault => fault.message

/-- Why a transport cannot be established. -/
inductive TransportFault
  /-- The endpoint does not make a URI. -/
  | invalidUri
  /-- The TCP connection cannot be opened. -/
  | socket (fault : SocketFault)
  /-- The server name, the certificates or the key are unusable. -/
  | security
  /-- A cause that is stated by those who establish transports. -/
  | stated (cause : String)
  deriving DecidableEq, Repr

namespace TransportFault

/-- The text of a transport's fault, which hides what lies below it. -/
def message : TransportFault → String
  | .invalidUri => "invalid URI"
  | .socket _ | .security | .stated _ => "transport error"

/-- The text of the fault at the bottom. -/
def rootCause : TransportFault → String
  | .socket fault => fault.message
  | .invalidUri => message .invalidUri
  | .security => message .security
  | .stated cause => cause

end TransportFault

/-- Why an authorizer refuses. -/
inductive Refusal
  /-- No certificate authority is configured. -/
  | noAuthority
  /-- No token is configured. -/
  | noToken
  /-- An insecure authorizer has no transport credentials. -/
  | insecureTransport
  /-- An insecure authorizer has no call credentials. -/
  | insecureCall
  /-- A reason that the authorizer states itself. -/
  | stated (reason : String)
  deriving DecidableEq, Repr

/-- The text of a refusal. -/
def Refusal.message : Refusal → String
  | .noAuthority => "no CA certificate configured"
  | .noToken => "no token configured for the authentication service"
  | .insecureTransport => "insecure authorizer has no transport credentials"
  | .insecureCall => "insecure authorizer has no call credentials"
  | .stated reason => reason

/-- Why a lookup gives no connection. -/
inductive ConnectError
  /-- The transport to an endpoint failed. -/
  | dial (endpoint : String) (fault : TransportFault)
  /-- Dialing an endpoint failed for a stated reason. -/
  | dialFailed (endpoint : String) (reason : String)
  /-- The endpoint is no endpoint. -/
  | invalidEndpoint (endpoint : String) (reason : String)
  /-- The transport security cannot be set up. -/
  | tls (fault : TransportFault)
  /-- The authorizer refused. -/
  | authorization (refusal : Refusal)
  /-- The lookup was cancelled. -/
  | cancelled (endpoint : String)
  deriving DecidableEq, Repr

namespace ConnectError

/-- The text of an error. -/
def message : ConnectError → String
  | .dial endpoint fault => "Failed to dial " ++ endpoint ++ ": " ++ fault.message
  | .dialFailed endpoint reason => "Failed to dial " ++ endpoint ++ ": " ++ reason
  | .invalidEndpoint endpoint reason =>
      "Invalid endpoint " ++ endpoint ++ ": " ++ reason
  | .tls fault => "TLS configuration error: " ++ fault.message
  | .authorization refusal => "Authorization failed: " ++ refusal.message
  | .cancelled endpoint => "Dial to " ++ endpoint ++ " was cancelled"

/-- Whether the transport could not be established. -/
def isDialFailure : ConnectError → Bool
  | .dial _ _ | .dialFailed _ _ | .invalidEndpoint _ _ => true
  | .tls _ | .authorization _ | .cancelled _ => false

/-- The fault of the transport below an error. -/
def source? : ConnectError → Option TransportFault
  | .dial _ fault | .tls fault => some fault
  | .dialFailed _ _ | .invalidEndpoint _ _ | .authorization _ | .cancelled _ => none

end ConnectError
end Switchboard
