import Switchboard.Cache.Basic

/-!
# Runs of a cache

A run is a sequence of events: lookups are started, polled and dropped, the cache
is cleared, and the surroundings change.
-/

namespace Switchboard

/-- What can happen to a cache. -/
inductive Event
  /-- A lookup is started. -/
  | start (lookup : Lookup)
  /-- A lookup is polled. -/
  | poll (ticket : Ticket)
  /-- A lookup is dropped. -/
  | drop (ticket : Ticket)
  /-- The cache is cleared. -/
  | clear
  /-- The surroundings change. -/
  | change (change : Change)

namespace Cache

/-- What a cache does at an event. -/
def step
    (cache : Cache)
    (surroundings : Surroundings)
    (state : CacheState) : Event → Turn
  | .start lookup => cache.start surroundings state lookup
  | .poll ticket => cache.poll surroundings state ticket
  | .drop ticket => Cache.drop surroundings state ticket
  | .clear => cache.clear surroundings state
  | .change change => ⟨surroundings.apply change, state, []⟩

/-- The turn after one more event. -/
def next
    (cache : Cache)
    (turn : Turn)
    (event : Event) : Turn :=
  let stepped := cache.step turn.surroundings turn.state event
  { stepped with effects := turn.effects ++ stepped.effects }

/-- The turn after a sequence of events. -/
def run
    (cache : Cache)
    (turn : Turn)
    (events : List Event) : Turn :=
  events.foldl cache.next turn

/-- A lookup that is polled once and then given up unless it has ended. -/
def attempt
    (cache : Cache)
    (turn : Turn)
    (lookup : Lookup) : Turn :=
  cache.run turn [.start lookup, .drop lookup.ticket]

/-- One pass over the lookups under way: each is polled, in the order of their
starts. -/
def pass
    (cache : Cache)
    (turn : Turn) : Turn :=
  cache.run turn (turn.state.inFlight.map .poll)

/-- At most a number of passes, as long as each finishes a lookup. -/
def settleWithin
    (cache : Cache) : Nat → Turn → Turn
  | 0, turn => turn
  | passes + 1, turn =>
      let passed := cache.pass turn
      if passed.state.flights.length < turn.state.flights.length then
        cache.settleWithin passes passed
      else
        passed

/-- Pass after pass, until a pass finishes no lookup. -/
def settle
    (cache : Cache)
    (turn : Turn) : Turn :=
  cache.settleWithin (turn.state.flights.length + 1) turn

end Cache
end Switchboard
