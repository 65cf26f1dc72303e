import Switchboard.Cache.Effect
import Switchboard.Channel.Connection

/-!
# Dialing

A dialer turns an endpoint into a connection.  The endpoint has to make a URI, and transport
credentials have to be accepted.  An eager dialer waits until the transport is established, a
lazy one leaves it to the first request.
-/

namespace Switchboard

/-- A way to make connections. -/
structure Dialer where
  /-- The network that is dialed into. -/
  network : Network
  /-- Whether the first request makes the TCP connection. -/
  lazy : Bool

/-- How waiting for a transport went. -/
structure Awaited where
  /-- What was noted. -/
  notices : List Notice
  /-- The state of the connection, or why there is none. -/
  outcome : Except TransportFault Connectivity

/-- How a dial went. -/
structure Dialed where
  /-- What was noted when it began. -/
  begun : List Notice
  /-- What was noted until it ended. -/
  ended : List Notice
  /-- The connection and its state, or why there is none. -/
  outcome : Except ConnectError (Connection × Connectivity)

/-- All that was noted about a dial. -/
def Dialed.notices (dialed : Dialed) : List Notice :=
  dialed.begun ++ dialed.ended

namespace Dialer

/-- What the transport to an endpoint is made of, if the configuration can be used for it. -/
def blueprint
    (dialer : Dialer)
    (endpoint : String)
    (config : DialConfig) : Except ConnectError Blueprint :=
  match Uri.parse? config.security.scheme endpoint with
  | none => .error (.invalidEndpoint endpoint TransportFault.invalidUri.message)
  | some uri =>
      let blueprint : Blueprint := ⟨uri, config.security, config.keepalive, config.timeouts⟩
      match config.security with
      | .plaintext => .ok blueprint
      | .tls settings =>
          match dialer.network.accept settings uri with
          | .error fault => .error (.tls fault)
          | .ok _ => .ok blueprint

/-- An eager dialer opens the TCP connection and waits until the transport can be used. -/
def await (dialer : Dialer) (blueprint : Blueprint) : Awaited :=
  let opened := Connection.connect dialer.network blueprint.uri
  let report := Connection.endAttempt blueprint.uri (Connection.beginAttempt .idle) opened
  match dialer.network.establish blueprint, opened with
  | .overdue cause, _ => ⟨[], .error (.stated cause)⟩
  | _, .error fault => ⟨report.notices, .error (.socket fault)⟩
  | .broken cause, .ok _ => ⟨report.notices, .error (.stated cause)⟩
  | .usable, .ok _ => ⟨report.notices, .ok report.state⟩

/-- A lazy dialer waits for nothing. -/
def establish (dialer : Dialer) (blueprint : Blueprint) : Awaited :=
  if dialer.lazy then ⟨[], .ok .idle⟩ else dialer.await blueprint

/-- An endpoint is dialed. -/
def dial
    (dialer : Dialer)
    (endpoint : String)
    (config : DialConfig) : Dialed :=
  match dialer.blueprint endpoint config with
  | .error error => ⟨[], [], .error error⟩
  | .ok blueprint =>
      let connection : Connection := ⟨endpoint, blueprint.uri, config.credentials?⟩
      let awaited := dialer.establish blueprint
      ⟨[.dialing endpoint config], awaited.notices,
        match awaited.outcome with
        | .error fault => .error (.dial endpoint fault)
        | .ok state => .ok (connection, state)⟩

/-- How a dial stands when it is over. -/
def answer
    (dialer : Dialer)
    (endpoint : String)
    (config : DialConfig) : Answer :=
  match (dialer.dial endpoint config).outcome with
  | .error error => .failed error
  | .ok (_, state) => .connected (some state)

end Dialer
end Switchboard
