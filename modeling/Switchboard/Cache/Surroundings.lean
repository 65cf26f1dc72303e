import Switchboard.Cache.Lock
import Switchboard.Connectivity
import Switchboard.Dial.Config
import Switchboard.Environment
import Switchboard.Table

/-!
# Surroundings of a cache

What happens around caches is not in their hands: variables are set, tokens
fire, connections report states, and dials succeed, fail or stay open.  Lookups
are numbered by those who start them; a connection has the number of the lookup
that dialed it.
-/

namespace Switchboard

/-- The name of a token that can cancel lookups. -/
abbrev Token := String

/-- How a dial stands when it is looked at. -/
inductive Answer
  /-- It is still under way. -/
  | pending
  /-- It has failed. -/
  | failed (error : ConnectError)
  /-- It has succeeded; a state that is given is reported with it. -/
  | connected (state? : Option Connectivity)

/-- What caches find around them. -/
structure Surroundings where
  /-- The variables of the process. -/
  environment : Environment
  /-- The tokens that have fired. -/
  fired : List Token
  /-- The lookups that have been started, in order. -/
  started : List Ticket
  /-- The state that each dialed connection reports. -/
  states : Table Ticket Connectivity
  /-- How a dial to an endpoint with a configuration stands. -/
  answer : String → DialConfig → Answer

namespace Surroundings

/-- Nothing has happened, and every dial succeeds at once. -/
def initial : Surroundings :=
  ⟨.empty, [], [], .empty, fun _ _ => .connected none⟩

/-- Whether a token has fired; a lookup without a token is never cancelled. -/
def hasFired
    (surroundings : Surroundings)
    (token? : Option Token) : Bool :=
  token?.any surroundings.fired.contains

/-- The state that a connection reports; it is ready unless it says otherwise. -/
def stateOf
    (surroundings : Surroundings)
    (connection : Ticket) : Connectivity :=
  (surroundings.states.find? connection).getD .ready

/-- The surroundings in which a connection reports a state. -/
def report
    (surroundings : Surroundings)
    (connection : Ticket)
    (state : Connectivity) : Surroundings :=
  { surroundings with states := surroundings.states.set connection state }

/-- The surroundings after a lookup has been started. -/
def register
    (surroundings : Surroundings)
    (ticket : Ticket) : Surroundings :=
  { surroundings with started := surroundings.started ++ [ticket] }

end Surroundings

/-- A change of the surroundings. -/
inductive Change
  /-- A token fires. -/
  | fire (token : Token)
  /-- A connection reports a state. -/
  | report (connection : Ticket) (state : Connectivity)
  /-- Dials stand differently from now on. -/
  | answers (answer : String → DialConfig → Answer)
  /-- The variables of the process are others from now on. -/
  | environment (environment : Environment)

/-- The surroundings after a change.  Only connections that have been dialed can
report. -/
def Surroundings.apply
    (surroundings : Surroundings) : Change → Surroundings
  | .fire token => { surroundings with fired := token :: surroundings.fired }
  | .report connection state =>
      if (surroundings.states.find? connection).isSome then
        surroundings.report connection state
      else
        surroundings
  | .answers answer => { surroundings with answer := answer }
  | .environment environment => { surroundings with environment := environment }

end Switchboard
