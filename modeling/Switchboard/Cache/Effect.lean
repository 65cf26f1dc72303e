import Switchboard.Cache.State
import Switchboard.Dial.Preparation

/-!
# Effects of a cache

All that a cache does to its surroundings and to those who look up is a sequence
of effects.
-/

namespace Switchboard

/-- How a lookup ends: with a connection or with an error. -/
abbrev Outcome := Except ConnectError Ticket

/-- What a cache does. -/
inductive Effect
  /-- It notes something in the log. -/
  | notice (notice : Notice)
  /-- A lookup asks its authorizer. -/
  | consulted (ticket : Ticket) (question : Question)
  /-- A lookup dials an endpoint. -/
  | dialed (ticket : Ticket) (endpoint : String) (config : DialConfig)
  /-- A lookup closes a connection, which has reported a state until now. -/
  | closed
      (ticket : Ticket)
      (connection : Ticket)
      (endpoint : String)
      (state : Connectivity)
  /-- A lookup ends. -/
  | returned (ticket : Ticket) (outcome : Outcome)

namespace Effect

/-- The notice that an effect puts into the log itself. -/
def notice? : Effect → Option Notice
  | .notice note => some note
  | .consulted _ _ | .dialed _ _ _ | .closed _ _ _ _ | .returned _ _ => none

/-- The outcome that an effect tells for a lookup. -/
def outcomeOf? (effect : Effect) (ticket : Ticket) : Option Outcome :=
  match effect with
  | .returned other outcome => if other = ticket then some outcome else none
  | .notice _ | .consulted _ _ | .dialed _ _ _ | .closed _ _ _ _ => none

end Effect

/-- Surroundings, the state of a cache, and what the cache has done so far. -/
structure Turn where
  /-- The surroundings. -/
  surroundings : Surroundings
  /-- The state of the cache. -/
  state : CacheState
  /-- What the cache has done. -/
  effects : List Effect

namespace Turn

/-- The turn in which more has been done. -/
def record
    (turn : Turn)
    (effects : List Effect) : Turn :=
  { turn with effects := turn.effects ++ effects }

/-- The turn in which a lookup has left with an outcome. -/
def finish
    (turn : Turn)
    (flight : Flight)
    (outcome : Outcome) : Turn :=
  { turn with state := turn.state.leave flight }.record
    [.returned flight.ticket outcome]

/-- The outcome of a lookup, if it has ended. -/
def outcomeOf?
    (turn : Turn)
    (ticket : Ticket) : Option Outcome :=
  turn.effects.findSome? (·.outcomeOf? ticket)

end Turn
end Switchboard
