import Switchboard.DebugSwitch
import Switchboard.Log.Notice

/-!
# Preparing a dial

Before a dial the authorizer is asked for what the family needs.  Agents need
transport credentials, or nothing at all in debug mode; the authentication
service needs transport credentials and call credentials, whatever the mode.
-/

namespace Switchboard

/-- What an authorizer can be asked for. -/
inductive Question
  | transport
  | call
  deriving DecidableEq, Repr

/-- What happens before a dial. -/
structure Preparation where
  /-- What the authorizer was asked for, in order. -/
  questions : List Question
  /-- What the log records. -/
  notices : List Notice
  /-- The configuration of the dial, or why there will be none. -/
  outcome : Except ConnectError DialConfig

namespace Preparation

/-- The preparation of a dial to an agent. -/
def agent
    (authorizer : Authorizer)
    (debugMode : Bool) : Preparation :=
  if debugMode then
    ⟨[], [.plaintext], .ok (.ofSecurity .plaintext)⟩
  else
    ⟨[.transport], [], authorizer.transport.map fun settings =>
      .ofSecurity (.tls settings)⟩

/-- The preparation of a dial to the authentication service. -/
def authentication (authorizer : Authorizer) : Preparation :=
  match authorizer.transport with
  | .error error => ⟨[.transport], [], .error error⟩
  | .ok settings =>
      ⟨[.transport, .call], [], authorizer.call.map fun token =>
        { DialConfig.ofSecurity (.tls settings) with credentials? := some token }⟩

/-- The preparation in which the configuration gets timeouts. -/
def withTimeouts
    (preparation : Preparation)
    (timeouts : Timeouts) : Preparation :=
  { preparation with
    outcome := preparation.outcome.map (·.withTimeouts timeouts) }

end Preparation

/-- The preparation of a dial in a family. -/
def Family.prepare
    (family : Family)
    (authorizer : Authorizer)
    (debugMode : Bool)
    (timeouts : Timeouts) : Preparation :=
  match family with
  | .agent => (Preparation.agent authorizer debugMode).withTimeouts timeouts
  | .authentication =>
      (Preparation.authentication authorizer).withTimeouts timeouts

end Switchboard
