import Switchboard.Client
import Switchboard.Log.Level

/-!
# Configurations

A configuration says how a client is set up and what the log records.  Paths are
octets, as the operating system has them.
-/

namespace Switchboard

/-- Where certificates and keys are found. -/
structure TlsFiles where
  /-- The file of the certificate authority. -/
  authority : Text.Octets
  /-- The file of the client's certificate. -/
  certificate? : Option Text.Octets
  /-- The file of the client's private key. -/
  key? : Option Text.Octets
  /-- The server name to expect. -/
  domain? : Option String
  deriving DecidableEq

/-- How a client is set up and what the log records. -/
structure Config where
  /-- Whether agents are dialed unsecured. -/
  debugMode : Bool
  /-- Whether stale connections to the authentication service are given up. -/
  authenticationCheck : Bool
  /-- How many seconds establishing a connection may take. -/
  connectSeconds? : Option UInt64
  /-- How many seconds a request may take. -/
  requestSeconds : UInt64
  /-- Where certificates and keys are found. -/
  tls? : Option TlsFiles
  /-- The bearer token. -/
  token? : Option String
  /-- The level up to which the log records. -/
  logLevel : Level
  /-- The file of the log. -/
  logFile? : Option Text.Octets
  /-- Whether the log records more. -/
  verbose : Bool
  deriving DecidableEq

namespace Config

/-- How many seconds a request may take unless something else is said. -/
def defaultRequestSeconds : UInt64 := 600

/-- The configuration in which nothing is set. -/
def default : Config where
  debugMode := false
  authenticationCheck := false
  connectSeconds? := none
  requestSeconds := defaultRequestSeconds
  tls? := none
  token? := none
  logLevel := Level.default
  logFile? := none
  verbose := false

/-- The configuration for a local agent without security. -/
def forDebugging : Config :=
  { default with
    debugMode := true
    connectSeconds? := some 5
    logLevel := .debug }

/-- What decides whether agents are dialed unsecured. -/
def debugSwitch (config : Config) : DebugSwitch :=
  .ofFlag config.debugMode

/-- The timeouts of all that a client dials. -/
def timeouts (config : Config) : Timeouts where
  connect? := config.connectSeconds?.map fun seconds => .ofSeconds seconds.toNat
  request? := some (.ofSeconds config.requestSeconds.toNat)

/-- The configuration that may be shown: its token is covered. -/
def redacted (config : Config) : Config :=
  { config with token? := config.token?.map fun _ => redaction }

/-- The client that a configuration describes, with an authorizer that may give other
answers to every lookup. -/
def clientAnswering (config : Config) (answers : Ticket → Authorizer) : Client :=
  .ofChoices config.debugMode config.authenticationCheck config.timeouts answers

/-- The client that a configuration describes, with an authorizer that always gives the same
answers. -/
def client (config : Config) (authorizer : Authorizer) : Client :=
  config.clientAnswering fun _ => authorizer

end Config
end Switchboard
