import Switchboard.Authorizer
import Switchboard.Cache.Surroundings

/-!
# The state of a cache

Every endpoint that a cache knows has a place, and at the place there is a slot.
A slot holds at most one connection and has a lock; lookups of the endpoint queue
for the lock.  A slot has the number of the lookup that made it.  When a cache is
cleared its slots lose their places, but lookups that are under way keep theirs.
-/

namespace Switchboard

/-- What somebody wants from a cache. -/
structure Lookup where
  /-- The number under which the lookup runs. -/
  ticket : Ticket
  /-- The address that is looked up. -/
  address : String
  /-- The authorizer to ask when a dial is needed. -/
  authorizer : Authorizer
  /-- The token that cancels the lookup. -/
  token? : Option Token

/-- How far a lookup has come. -/
inductive Phase
  /-- It waits for its turn, or has got it and has not yet acted on it. -/
  | queued
  /-- It is dialing. -/
  | dialing (config : DialConfig)

/-- A lookup that is under way. -/
structure Flight where
  /-- The lookup. -/
  lookup : Lookup
  /-- The canonical endpoint of its address. -/
  endpoint : String
  /-- The slot for which it queues. -/
  slot : Ticket
  /-- How far it has come. -/
  phase : Phase

/-- The number of a lookup that is under way. -/
def Flight.ticket (flight : Flight) : Ticket :=
  flight.lookup.ticket

/-- What is kept for an endpoint. -/
structure Slot where
  /-- The connection to hand out again. -/
  connection? : Option Ticket
  /-- The lock for which lookups queue. -/
  lock : Lock
  deriving DecidableEq

namespace Slot

/-- A new slot. -/
def vacant : Slot :=
  ⟨none, .idle⟩

/-- Whether a slot has a connection or is being given one. -/
def isOccupied (slot : Slot) : Bool :=
  slot.connection?.isSome || slot.lock.isTaken

end Slot

/-- What a cache knows. -/
structure CacheState where
  /-- The number of the slot at the place of each endpoint. -/
  places : Table String Ticket
  /-- The slots by number. -/
  slots : Table Ticket Slot
  /-- The lookups under way, in the order in which they were started. -/
  flights : List Flight

namespace CacheState

/-- A cache that has not been used. -/
def empty : CacheState :=
  ⟨.empty, .empty, []⟩

/-- The slot with a number. -/
def slotAt (state : CacheState) (number : Ticket) : Slot :=
  (state.slots.find? number).getD .vacant

/-- The state in which a slot is another one. -/
def setSlot
    (state : CacheState)
    (number : Ticket)
    (slot : Slot) : CacheState :=
  { state with slots := state.slots.set number slot }

/-- The lookup under way with a number. -/
def flight?
    (state : CacheState)
    (ticket : Ticket) : Option Flight :=
  state.flights.find? (·.ticket = ticket)

/-- The numbers of the lookups under way, in the order of their starts. -/
def inFlight (state : CacheState) : List Ticket :=
  state.flights.map (·.ticket)

/-- The state in which an endpoint has a place; a new slot there gets `ticket` as
its number. -/
def assign
    (state : CacheState)
    (endpoint : String)
    (ticket : Ticket) : CacheState × Ticket :=
  match state.places.find? endpoint with
  | some number => (state, number)
  | none =>
      ({ state.setSlot ticket .vacant with
          places := state.places.set endpoint ticket }, ticket)

/-- The state in which a lookup is under way and has asked for the lock of its
endpoint's slot. -/
def board
    (state : CacheState)
    (lookup : Lookup)
    (endpoint : String) : CacheState × Flight :=
  let (assigned, number) := state.assign endpoint lookup.ticket
  let slot := assigned.slotAt number
  let flight : Flight := ⟨lookup, endpoint, number, .queued⟩
  let asked := assigned.setSlot number { slot with lock := slot.lock.request lookup.ticket }
  ({ asked with flights := asked.flights ++ [flight] }, flight)

/-- The state in which a lookup is dialing. -/
def markDialing
    (state : CacheState)
    (flight : Flight)
    (config : DialConfig) : CacheState :=
  { state with
    flights := state.flights.map fun other =>
      if other.ticket = flight.ticket then { other with phase := .dialing config }
      else other }

/-- The state in which a slot has a connection, or none. -/
def fill
    (state : CacheState)
    (number : Ticket)
    (connection? : Option Ticket) : CacheState :=
  state.setSlot number { state.slotAt number with connection? := connection? }

/-- The state in which an endpoint has lost its place if its slot is left empty
and nobody else uses the slot. -/
def reap
    (state : CacheState)
    (endpoint : String)
    (number : Ticket) : CacheState :=
  if state.places.find? endpoint = some number ∧
      (state.slotAt number).isOccupied = false ∧
      state.flights.all (·.slot ≠ number) then
    { state with places := state.places.erase endpoint }
  else
    state

/-- The state after a lookup has left: its slot's lock has passed on, and the
place of its endpoint is gone if there is no more use for it. -/
def leave
    (state : CacheState)
    (flight : Flight) : CacheState :=
  let slot := state.slotAt flight.slot
  let released :=
    state.setSlot flight.slot { slot with lock := slot.lock.leave flight.ticket }
  let gone :=
    { released with
      flights := released.flights.filter (·.ticket ≠ flight.ticket) }
  gone.reap flight.endpoint flight.slot

/-- The state in which no endpoint has a place. -/
def clear (state : CacheState) : CacheState :=
  { state with places := .empty }

/-- The number of endpoints with a connection, or with one on its way. -/
def len (state : CacheState) : Nat :=
  state.places.entries.countP fun (_, number) => (state.slotAt number).isOccupied

/-- Whether an endpoint has a connection, or one on its way. -/
def holds
    (state : CacheState)
    (endpoint : String) : Bool :=
  (state.places.find? endpoint).any fun number => (state.slotAt number).isOccupied

end CacheState
end Switchboard
