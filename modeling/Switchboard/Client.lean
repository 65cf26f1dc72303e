import Switchboard.Cache.Run

/-!
# Clients

A client has a cache for agents and a cache for the authentication service, and
one authorizer for both.  The authorizer may give other answers to every lookup.
The two caches share their surroundings and nothing else.
-/

namespace Switchboard

/-- How a client is set up. -/
structure Client where
  /-- The cache for agents. -/
  agents : Cache
  /-- The cache for the authentication service. -/
  authentication : Cache
  /-- What the authorizer answers to each lookup. -/
  authorizer : Ticket → Authorizer

/-- What the caches of a client know. -/
structure ClientState where
  /-- The state of the cache for agents. -/
  agents : CacheState
  /-- The state of the cache for the authentication service. -/
  authentication : CacheState

namespace ClientState

/-- The caches of a client that has not been used. -/
def empty : ClientState :=
  ⟨.empty, .empty⟩

/-- The state of a family's cache. -/
def of (state : ClientState) : Family → CacheState
  | .agent => state.agents
  | .authentication => state.authentication

/-- The state in which a family's cache has another state. -/
def replace
    (state : ClientState)
    (family : Family)
    (part : CacheState) : ClientState :=
  match family with
  | .agent => { state with agents := part }
  | .authentication => { state with authentication := part }

end ClientState

/-- Surroundings, the state of a client, and what its caches have done so far. -/
structure ClientTurn where
  /-- The surroundings. -/
  surroundings : Surroundings
  /-- The state of the caches. -/
  state : ClientState
  /-- What the caches have done, with their families. -/
  effects : List (Family × Effect)

/-- What can happen to a client. -/
inductive ClientEvent
  /-- A lookup is started in a family's cache. -/
  | start (family : Family) (ticket : Ticket) (address : String) (token? : Option Token)
  /-- A lookup is polled. -/
  | poll (ticket : Ticket)
  /-- A lookup is dropped. -/
  | drop (ticket : Ticket)
  /-- One cache is cleared. -/
  | clearOne (family : Family)
  /-- Both caches are cleared. -/
  | clear
  /-- The surroundings change. -/
  | change (change : Change)

namespace Client

/-- The client with a debug flag, a choice whether stale connections to the
authentication service are given up, and timeouts. -/
def ofChoices
    (debugMode : Bool)
    (authenticationCheck : Bool)
    (timeouts : Timeouts)
    (authorizer : Ticket → Authorizer) : Client where
  agents := { Cache.ofFamily .agent (.ofFlag debugMode) with timeouts }
  authentication :=
    { Cache.ofFamily .authentication .default with
      policy := if authenticationCheck then .transportState else .alwaysHealthy
      timeouts }
  authorizer

/-- The cache of a family. -/
def cacheOf (client : Client) : Family → Cache
  | .agent => client.agents
  | .authentication => client.authentication

/-- What the log notes when a client is ready. -/
def readiness (client : Client) : Notice :=
  .ready client.agents.debug.flag (client.authentication.policy == .transportState)

/-- The turn after an event at one cache. -/
def stepOne
    (client : Client)
    (family : Family)
    (turn : ClientTurn)
    (event : Event) : ClientTurn :=
  let stepped :=
    (client.cacheOf family).step turn.surroundings (turn.state.of family) event
  ⟨stepped.surroundings, turn.state.replace family stepped.state,
    turn.effects ++ stepped.effects.map (family, ·)⟩

/-- The turn after an event at both caches. -/
def stepBoth
    (client : Client)
    (turn : ClientTurn)
    (event : Event) : ClientTurn :=
  client.stepOne .authentication (client.stepOne .agent turn event) event

/-- The turn after one more event.  A lookup is under way in one cache at most, so
that polls and drops may go to both. -/
def next
    (client : Client)
    (turn : ClientTurn) : ClientEvent → ClientTurn
  | .start family ticket address token? =>
      client.stepOne family turn (.start ⟨ticket, address, client.authorizer ticket, token?⟩)
  | .poll ticket => client.stepBoth turn (.poll ticket)
  | .drop ticket => client.stepBoth turn (.drop ticket)
  | .clearOne family => client.stepOne family turn .clear
  | .clear => client.stepBoth turn .clear
  | .change change =>
      { turn with surroundings := turn.surroundings.apply change }

/-- The turn after a sequence of events. -/
def run
    (client : Client)
    (turn : ClientTurn)
    (events : List ClientEvent) : ClientTurn :=
  events.foldl client.next turn

/-- The number of lookups under way. -/
def flightCount (turn : ClientTurn) : Nat :=
  turn.state.agents.flights.length + turn.state.authentication.flights.length

/-- The lookups under way in both caches, in the order of their starts. -/
def inFlight (turn : ClientTurn) : List Ticket :=
  turn.surroundings.started.filter fun ticket =>
    turn.state.agents.inFlight.contains ticket ||
      turn.state.authentication.inFlight.contains ticket

/-- One pass over the lookups under way in both caches. -/
def pass
    (client : Client)
    (turn : ClientTurn) : ClientTurn :=
  client.run turn ((inFlight turn).map .poll)

/-- At most a number of passes, as long as each finishes a lookup. -/
def settleWithin
    (client : Client) : Nat → ClientTurn → ClientTurn
  | 0, turn => turn
  | passes + 1, turn =>
      let passed := client.pass turn
      if flightCount passed < flightCount turn then
        client.settleWithin passes passed
      else
        passed

/-- Pass after pass, until a pass finishes no lookup. -/
def settle
    (client : Client)
    (turn : ClientTurn) : ClientTurn :=
  client.settleWithin (flightCount turn + 1) turn

end Client
end Switchboard
