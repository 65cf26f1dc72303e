import Switchboard.Authorizer
import Switchboard.Duration

/-!
# Dial configurations

A dial configuration is all that a dialer needs to know besides the endpoint.
-/

namespace Switchboard

/-- The pings that keep a connection alive. -/
structure Keepalive where
  /-- The time between two pings. -/
  interval : Duration
  /-- How long an answer may take. -/
  timeout : Duration
  /-- Whether pings go out while no request is under way. -/
  permitWithoutStream : Bool
  deriving DecidableEq

namespace Keepalive

/-- The pings of every connection. -/
def default : Keepalive :=
  ⟨.ofSeconds 60, .ofSeconds 20, true⟩

/-- The text of the pings. -/
def render (keepalive : Keepalive) : String :=
  Text.record "KeepalivePolicy"
    [("interval", keepalive.interval.render),
     ("timeout", keepalive.timeout.render),
     ("permit_without_stream", Text.truth keepalive.permitWithoutStream)]

end Keepalive

/-- How a connection is secured. -/
inductive Security
  | plaintext
  | tls (settings : TlsSettings)
  deriving DecidableEq

namespace Security

/-- Whether a connection goes out unsecured. -/
def isPlaintext : Security → Bool
  | .plaintext => true
  | .tls _ => false

/-- The scheme of URIs with a security. -/
def scheme : Security → String
  | .plaintext => "http"
  | .tls _ => "https"

end Security

/-- The timeouts that a cache puts on what it dials. -/
structure Timeouts where
  /-- How long establishing a connection may take. -/
  connect? : Option Duration
  /-- How long a request may take. -/
  request? : Option Duration
  deriving DecidableEq

/-- No timeouts. -/
def Timeouts.none : Timeouts :=
  ⟨.none, .none⟩

/-- All that a dialer needs to know besides the endpoint. -/
structure DialConfig where
  /-- How the connection is secured. -/
  security : Security
  /-- The pings that keep it alive. -/
  keepalive : Keepalive
  /-- The credentials that go with every request. -/
  credentials? : Option BearerToken
  /-- Its timeouts. -/
  timeouts : Timeouts
  deriving DecidableEq

namespace DialConfig

/-- A configuration with a security, and nothing else that is not usual. -/
def ofSecurity (security : Security) : DialConfig :=
  ⟨security, .default, none, .none⟩

/-- The configuration with the timeouts that are given. -/
def withTimeouts
    (config : DialConfig)
    (timeouts : Timeouts) : DialConfig :=
  { config with
    timeouts :=
      ⟨timeouts.connect?.or config.timeouts.connect?,
        timeouts.request?.or config.timeouts.request?⟩ }

/-- The text of a configuration, which shows no secret. -/
def render (config : DialConfig) : String :=
  Text.record "DialConfig"
    [("insecure", Text.truth config.security.isPlaintext),
     ("keepalive", config.keepalive.render),
     ("call_credentials", Text.truth config.credentials?.isSome),
     ("connect_timeout", Text.optional Duration.render config.timeouts.connect?),
     ("request_timeout", Text.optional Duration.render config.timeouts.request?)]

end DialConfig
end Switchboard
