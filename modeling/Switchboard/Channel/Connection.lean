import Switchboard.Interceptor
import Switchboard.Log.Notice
import Switchboard.Network
import Switchboard.Uri

/-!
# Connections

A connection records what happens to it as its state.  Once it has been closed
its state stays shutdown, whatever is recorded afterwards.
-/

namespace Switchboard

namespace Connectivity

/-- The state after a connection has recorded another one. -/
def record (state recorded : Connectivity) : Connectivity :=
  if state = .shutdown then .shutdown else recorded

end Connectivity

/-- A connection that has been dialed. -/
structure Connection where
  /-- The endpoint that was dialed. -/
  endpoint : String
  /-- The endpoint as a URI. -/
  uri : Uri
  /-- The credentials that go with every request. -/
  credentials? : Option BearerToken
  deriving DecidableEq

/-- What happens to the state of a connection, and what is noted about it. -/
structure Report where
  /-- The state afterwards. -/
  state : Connectivity
  /-- What is noted. -/
  notices : List Notice

/-- What comes of a status of which a connection learns. -/
structure Observation extends Report where
  /-- Whether it says that the connection itself failed. -/
  failed : Bool

/-- An observation is reported without its verdict. -/
instance : Coe Observation Report :=
  ⟨Observation.toReport⟩

namespace Connection

/-- The interceptor of all requests on a connection. -/
def interceptor (connection : Connection) : Interceptor :=
  ⟨connection.credentials?⟩

/-- The text of a connection in a state. -/
def render (connection : Connection) (state : Connectivity) : String :=
  Text.record "Connection"
    [("endpoint", Text.quoted connection.endpoint),
     ("state", state.name),
     ("call_credentials", Text.truth connection.credentials?.isSome)]

/-- Opens a TCP connection to a URI. -/
def connect (network : Network) (uri : Uri) : Except SocketFault Unit :=
  match uri.port? with
  | none => .error .noPort
  | some port => (network.connect uri.bareHost port).mapError .system

/-- An attempt to connect begins in a state. -/
def beginAttempt (state : Connectivity) : Connectivity :=
  state.record .connecting

/-- An attempt to connect to a URI ends in a state. -/
def endAttempt
    (uri : Uri)
    (state : Connectivity)
    (result : Except SocketFault Unit) : Report :=
  match result with
  | .ok _ => ⟨state.record .ready, []⟩
  | .error fault =>
      ⟨state.record .transientFailure, [.unreachable uri.render fault]⟩

/-- An attempt to connect to a URI, from its begin to its end. -/
def attempt
    (network : Network)
    (uri : Uri)
    (state : Connectivity) : Report :=
  endAttempt uri (beginAttempt state) (connect network uri)

/-- A request on a connection opens the TCP connection first. -/
def request
    (connection : Connection)
    (network : Network)
    (state : Connectivity) : Report :=
  attempt network connection.uri state

/-- A connection learns how a request ended; only a failure of the connection itself
matters to it. -/
def observe
    (connection : Connection)
    (state : Connectivity)
    (status : Status) : Observation :=
  if status.isConnectionFailure then
    { state := state.record .transientFailure
      notices := [.broken connection.endpoint status.code]
      failed := true }
  else
    { state, notices := [], failed := false }

/-- What is noted when the connection to an endpoint is closed in a state: only the
first close counts. -/
def closeNotices (endpoint : String) (state : Connectivity) : List Notice :=
  if state = .shutdown then [] else [.closed endpoint]

/-- A connection is closed. -/
def close
    (connection : Connection)
    (state : Connectivity) : Report :=
  ⟨.shutdown, closeNotices connection.endpoint state⟩

end Connection
end Switchboard
