import Switchboard.Channel.Dialer

/-!
# What caches and their dials note

A cache notes what it does, and so do the dials that it begins and the connections that it closes.
A dial notes something when it begins and something until it ends.  It may stay open for a while
in between, and a dial that is given up never ends.
-/

namespace Switchboard

/-- The dialer that the dial of each lookup meets: from one dial to the next the network may have
changed. -/
abbrev Dialers := Ticket → Dialer

/-- Effects with all that comes before each of them. -/
def Effect.withPasts : List Effect → List Effect → List (List Effect × Effect)
  | _, [] => []
  | before, effect :: rest => (before, effect) :: withPasts (before ++ [effect]) rest

/-- Whether a lookup ends because it is cancelled. -/
def Outcome.isCancelled : Outcome → Bool
  | .error (.cancelled _) => true
  | .error (.dial _ _) | .error (.dialFailed _ _) | .error (.invalidEndpoint _ _)
  | .error (.tls _) | .error (.authorization _) | .ok _ => false

/-- What a lookup dials by an effect. -/
def Effect.dialOf? (effect : Effect) (ticket : Ticket) : Option (String × DialConfig) :=
  match effect with
  | .dialed other endpoint config => if other = ticket then some (endpoint, config) else none
  | .notice _ | .consulted _ _ | .closed _ _ _ _ | .returned _ _ => none

/-- The dial that is over when a lookup ends after certain effects: the one that it has begun,
unless it is cancelled in the middle of it. -/
def endedDial?
    (before : List Effect)
    (ticket : Ticket)
    (outcome : Outcome) : Option (String × DialConfig) :=
  if outcome.isCancelled then none else before.findSome? (·.dialOf? ticket)

namespace Dialers

/-- How the dial of a lookup goes. -/
def dialed
    (dialers : Dialers)
    (ticket : Ticket)
    (dial : String × DialConfig) : Dialed :=
  (dialers ticket).dial dial.1 dial.2

/-- All that is noted by an effect that comes after certain others. -/
def notices
    (dialers : Dialers)
    (before : List Effect) : Effect → List Notice
  | .notice note => [note]
  | .dialed ticket endpoint config => (dialers.dialed ticket (endpoint, config)).begun
  | .closed _ _ endpoint state => Connection.closeNotices endpoint state
  | .returned ticket outcome =>
      match endedDial? before ticket outcome with
      | some dial => (dialers.dialed ticket dial).ended
      | none => []
  | .consulted _ _ => []

/-- The connection that a lookup has made, with its number, when it ends after certain effects. -/
def made?
    (dialers : Dialers)
    (before : List Effect) : Effect → Option (Ticket × Connection)
  | .returned ticket outcome => do
      let dial ← endedDial? before ticket outcome
      let (connection, _) ← (dialers.dialed ticket dial).outcome.toOption
      return (ticket, connection)
  | .notice _ | .consulted _ _ | .dialed _ _ _ | .closed _ _ _ _ => none

/-- All that is noted by effects, from the first one on. -/
def log (dialers : Dialers) (effects : List Effect) : List Notice :=
  (Effect.withPasts [] effects).flatMap fun (before, effect) => dialers.notices before effect

/-- The connections that are made by effects, from the first one on. -/
def connections (dialers : Dialers) (effects : List Effect) : List (Ticket × Connection) :=
  (Effect.withPasts [] effects).filterMap fun (before, effect) => dialers.made? before effect

end Dialers
end Switchboard
