import Switchboard.Channel.Exchange
import Switchboard.Client
import Switchboard.Fault.Client

/-!
# Probes

A probe looks an address up once, through a client that has just been set up, and
gives up at a deadline.
-/

namespace Switchboard
namespace Command

/-- How a probe went. -/
structure Probed where
  /-- What was noted. -/
  notices : List Notice
  /-- The connection and its state, or why there is none. -/
  outcome : Except ConnectError (Connection × Connectivity)

namespace Probed

/-- The token that fires at the deadline. -/
def deadline : Token := "deadline"

/-- The number of the one lookup. -/
def ticket : Ticket := 0

/-- All that happens to a client that probes an address: what has not ended before the
deadline is cancelled. -/
def events (family : Family) (address : String) : List ClientEvent :=
  [.start family ticket address (some deadline), .change (.fire deadline), .poll ticket]

/-- The error with which the lookup ended, if there is one. -/
def error? (effects : List Effect) : Option ConnectError :=
  match (effects.findSome? (·.outcomeOf? ticket) : Option Outcome) with
  | some (.error error) => some error
  | some (.ok _) | none => none

/-- A probe of an address by a client, with a dialer. -/
def ofClient
    (client : Client)
    (dialer : Dialer)
    (environment : Environment)
    (family : Family)
    (address : String) : Probed :=
  let surroundings : Surroundings :=
    { Surroundings.initial with environment, answer := dialer.answer }
  let turn := client.run ⟨surroundings, .empty, []⟩ (events family address)
  let effects := turn.effects.map Prod.snd
  let dialers : Dialers := fun _ => dialer
  let notices := client.readiness :: dialers.log effects
  match error? effects, (dialers.connections effects).lookup ticket with
  | none, some connection =>
      let state := turn.surroundings.stateOf ticket
      ⟨notices ++ [.probed (connection.render state)], .ok (connection, state)⟩
  | some error, _ => ⟨notices, .error error⟩
  | none, none => ⟨notices, .error (.cancelled (family.resolve address))⟩

end Probed
end Command
end Switchboard
