import Mathlib.Data.List.Nodup
import Switchboard.Cache.State
import Switchboard.Proofs.Cache.Queue
import Switchboard.Proofs.Keys

/-!
# Changes of a cache's state

What is seen of a cache's state are the lookups under way, the slots, and the place of
every endpoint.  Each change of the state is described by what is seen after it.
-/

namespace Switchboard

/-- Whether a lookup under way is dialing. -/
def Flight.isDialing (flight : Flight) : Bool :=
  match flight.phase with
  | .queued => false
  | .dialing _ => true

namespace Flight

variable {flight : Flight}

/-- A lookup with a config is dialing. -/
theorem isDialing_of_phase_eq
    {config : DialConfig}
    (dialing : flight.phase = .dialing config) :
    flight.isDialing = true := by
  rw [isDialing, dialing]

/-- A lookup that waits for its turn is not dialing. -/
theorem isDialing_ne_true_of_waiting
    (waiting : flight.phase = .queued) :
    flight.isDialing ≠ true := by
  rw [isDialing, waiting]
  exact Bool.false_ne_true

/-- A lookup that does not dial is queued. -/
theorem phase_eq_queued
    (idle : flight.isDialing ≠ true) :
    flight.phase = .queued := by
  cases phase : flight.phase with
  | queued => rfl
  | dialing config => exact absurd (isDialing_of_phase_eq phase) idle

end Flight

namespace CacheState

/-- The lookups that queue for a slot, in the order of their starts. -/
def queueOf
    (state : CacheState)
    (number : Ticket) : List Ticket :=
  (state.flights.filter (·.slot = number)).map (·.ticket)

/-- The slot that a lookup of an endpoint gets: the one at the endpoint's place, or else
a new one with the lookup's own number. -/
def berth
    (state : CacheState)
    (endpoint : String)
    (ticket : Ticket) : Ticket :=
  (state.places.find? endpoint).getD ticket

/-- The queue of a slot holds the tickets of its lookups. -/
theorem mem_queueOf
    {state : CacheState}
    {number ticket : Ticket} :
    ticket ∈ state.queueOf number ↔
      ∃ flight ∈ state.flights, flight.slot = number ∧ flight.ticket = ticket := by
  simp [queueOf, and_assoc]

/-- A lookup that is found under a number is under way and has the number. -/
theorem flight?_eq_some
    {state : CacheState}
    {ticket : Ticket}
    {flight : Flight}
    (found : state.flight? ticket = some flight) :
    flight ∈ state.flights ∧ flight.ticket = ticket :=
  ⟨List.mem_of_find?_eq_some found, by simpa using List.find?_some found⟩

/-- Where numbers are distinct, a lookup under way is found under its number. -/
theorem flight?_ticket
    {state : CacheState}
    (distinct : state.inFlight.Nodup)
    {flight : Flight}
    (member : flight ∈ state.flights) :
    state.flight? flight.ticket = some flight := by
  cases found : state.flight? flight.ticket with
  | none =>
      have missed := List.find?_eq_none.mp found flight member
      simp at missed
  | some other =>
      obtain ⟨otherMember, sameTicket⟩ := flight?_eq_some found
      rw [List.inj_on_of_nodup_map distinct otherMember member sameTicket]

/-! ## Slots -/

@[simp]
theorem slotAt_setSlot
    (state : CacheState)
    (number other : Ticket)
    (slot : Slot) :
    (state.setSlot number slot).slotAt other =
      if other = number then slot else state.slotAt other := by
  by_cases same : other = number
  · subst same
    simp [slotAt, setSlot]
  · simp [slotAt, setSlot, Table.find?_set_of_ne _ _ same, same]

/-- Filling a slot changes its connection alone. -/
@[simp]
theorem slotAt_fill
    (state : CacheState)
    (number other : Ticket)
    (connection? : Option Ticket) :
    (state.fill number connection?).slotAt other =
      if other = number then { state.slotAt number with connection? := connection? }
      else state.slotAt other := by
  rw [fill, slotAt_setSlot]

@[simp]
theorem lock_fill
    (state : CacheState)
    (number other : Ticket)
    (connection? : Option Ticket) :
    ((state.fill number connection?).slotAt other).lock = (state.slotAt other).lock := by
  rw [slotAt_fill]
  split
  · next same => rw [same]
  · rfl

/-- A slot that is emptied has no connection, and the others keep theirs. -/
theorem connection?_fill_none
    {state : CacheState}
    {number other connection : Ticket} :
    ((state.fill number none).slotAt other).connection? = some connection ↔
      other ≠ number ∧ (state.slotAt other).connection? = some connection := by
  rw [slotAt_fill]
  by_cases same : other = number <;> simp [same]

@[simp]
theorem flights_fill
    (state : CacheState)
    (number : Ticket)
    (connection? : Option Ticket) :
    (state.fill number connection?).flights = state.flights := rfl

@[simp]
theorem places_fill
    (state : CacheState)
    (number : Ticket)
    (connection? : Option Ticket) :
    (state.fill number connection?).places = state.places := rfl

/-! ## Dialing -/

end CacheState

/-- A lookup after another one has begun to dial, which may be itself. -/
def Flight.whenDialing
    (other flight : Flight)
    (config : DialConfig) : Flight :=
  if other.ticket = flight.ticket then { other with phase := .dialing config } else other

namespace Flight

variable (other flight : Flight) (config : DialConfig)

@[simp]
theorem lookup_whenDialing : (other.whenDialing flight config).lookup = other.lookup := by
  rw [whenDialing]
  split <;> rfl

@[simp]
theorem ticket_whenDialing : (other.whenDialing flight config).ticket = other.ticket := by
  rw [ticket, lookup_whenDialing, ticket]

@[simp]
theorem endpoint_whenDialing :
    (other.whenDialing flight config).endpoint = other.endpoint := by
  rw [whenDialing]
  split <;> rfl

@[simp]
theorem slot_whenDialing : (other.whenDialing flight config).slot = other.slot := by
  rw [whenDialing]
  split <;> rfl

/-- The lookup that begins to dial is dialing, and the others are as before. -/
theorem isDialing_whenDialing :
    (other.whenDialing flight config).isDialing =
      (decide (other.ticket = flight.ticket) || other.isDialing) := by
  rw [whenDialing]
  by_cases same : other.ticket = flight.ticket
  · simp [same, isDialing]
  · simp [same]

/-- Another lookup does not begin to dial. -/
theorem whenDialing_of_ne
    {other flight : Flight}
    (different : other.ticket ≠ flight.ticket)
    (config : DialConfig) :
    other.whenDialing flight config = other := by
  rw [whenDialing, if_neg different]

end Flight

namespace CacheState

theorem flights_markDialing
    (state : CacheState)
    (flight : Flight)
    (config : DialConfig) :
    (state.markDialing flight config).flights =
      state.flights.map fun other => other.whenDialing flight config := rfl

@[simp]
theorem slotAt_markDialing
    (state : CacheState)
    (flight : Flight)
    (config : DialConfig)
    (number : Ticket) :
    (state.markDialing flight config).slotAt number = state.slotAt number := rfl

@[simp]
theorem places_markDialing
    (state : CacheState)
    (flight : Flight)
    (config : DialConfig) :
    (state.markDialing flight config).places = state.places := rfl

/-- A dial that begins keeps the lookups under way. -/
@[simp]
theorem inFlight_markDialing
    (state : CacheState)
    (flight : Flight)
    (config : DialConfig) :
    (state.markDialing flight config).inFlight = state.inFlight := by
  rw [inFlight, inFlight, flights_markDialing, List.map_map]
  apply List.map_congr_left
  intro other _
  exact other.ticket_whenDialing flight config

/-- A dial that begins keeps the queues. -/
@[simp]
theorem queueOf_markDialing
    (state : CacheState)
    (flight : Flight)
    (config : DialConfig)
    (number : Ticket) :
    (state.markDialing flight config).queueOf number = state.queueOf number := by
  rw [queueOf, queueOf, flights_markDialing, List.filter_map, List.map_map]
  simp only [Function.comp_def, Flight.slot_whenDialing, Flight.ticket_whenDialing]

/-! ## Boarding -/

/-- A lookup that boards is the last one under way. -/
theorem flights_board
    (state : CacheState)
    (lookup : Lookup)
    (endpoint : String) :
    (state.board lookup endpoint).1.flights =
      state.flights ++ [(state.board lookup endpoint).2] := by
  unfold board assign
  cases state.places.find? endpoint <;> rfl

/-- A lookup that boards is under way. -/
theorem mem_flights_board
    (state : CacheState)
    (lookup : Lookup)
    (endpoint : String) :
    (state.board lookup endpoint).2 ∈ (state.board lookup endpoint).1.flights := by
  rw [flights_board]
  exact List.mem_concat_self

/-- A lookup that boards queues for the slot of its endpoint. -/
theorem board_snd
    (state : CacheState)
    (lookup : Lookup)
    (endpoint : String) :
    (state.board lookup endpoint).2 =
      ⟨lookup, endpoint, state.berth endpoint lookup.ticket, .queued⟩ := by
  unfold board assign berth
  cases state.places.find? endpoint <;> rfl

/-- After a lookup has boarded, its endpoint has the place of its slot. -/
theorem find?_places_board
    (state : CacheState)
    (lookup : Lookup)
    (endpoint other : String) :
    (state.board lookup endpoint).1.places.find? other =
      if other = endpoint then some (state.berth endpoint lookup.ticket)
      else state.places.find? other := by
  unfold board assign berth
  cases placed : state.places.find? endpoint with
  | some number =>
      by_cases same : other = endpoint
      · subst same
        simpa [setSlot] using placed
      · simp [same, setSlot]
  | none =>
      by_cases same : other = endpoint
      · subst same
        simp [setSlot]
      · simp [same, setSlot, Table.find?_set_of_ne _ _ same]

/-- A lookup that boards asks for the lock of its slot, and changes nothing else in the
slots if its number has not been the number of a slot. -/
theorem slotAt_board
    {state : CacheState}
    {lookup : Lookup}
    (unused : state.slotAt lookup.ticket = .vacant)
    (endpoint : String)
    (number : Ticket) :
    (state.board lookup endpoint).1.slotAt number =
      if number = state.berth endpoint lookup.ticket then
        { state.slotAt number with
          lock := (state.slotAt number).lock.request lookup.ticket }
      else state.slotAt number := by
  have slotAt_flights : ∀ (before : CacheState) (flights : List Flight),
      { before with flights }.slotAt number = before.slotAt number := fun _ _ => rfl
  unfold board assign berth
  cases state.places.find? endpoint with
  | some placed =>
      by_cases same : number = placed
      · subst same
        simp [slotAt_flights]
      · simp [slotAt_flights, same]
  | none =>
      have slotAt_places : ∀ (before : CacheState) (places : Table String Ticket) other,
          { before with places }.slotAt other = before.slotAt other := fun _ _ _ => rfl
      by_cases same : number = lookup.ticket
      · subst same
        simp [slotAt_flights, slotAt_places, unused]
      · simp [slotAt_flights, slotAt_places, same]

/-- No connection comes or goes when a lookup boards. -/
theorem connection?_board
    {state : CacheState}
    {lookup : Lookup}
    (unused : state.slotAt lookup.ticket = .vacant)
    (endpoint : String)
    (number : Ticket) :
    ((state.board lookup endpoint).1.slotAt number).connection? =
      (state.slotAt number).connection? := by
  rw [slotAt_board unused]
  split <;> rfl

/-- A lookup that boards is the last one under way. -/
theorem inFlight_board
    (state : CacheState)
    (lookup : Lookup)
    (endpoint : String) :
    (state.board lookup endpoint).1.inFlight = state.inFlight ++ [lookup.ticket] := by
  rw [inFlight, flights_board, List.map_append, board_snd]
  rfl

/-- A lookup that boards queues at its berth, behind the others. -/
theorem queueOf_board
    (state : CacheState)
    (lookup : Lookup)
    (endpoint : String)
    (number : Ticket) :
    (state.board lookup endpoint).1.queueOf number =
      if number = state.berth endpoint lookup.ticket then
        state.queueOf number ++ [lookup.ticket]
      else state.queueOf number := by
  rw [queueOf, flights_board, board_snd, List.filter_append, List.map_append]
  by_cases same : number = state.berth endpoint lookup.ticket
  · simp [same, queueOf, Flight.ticket]
  · simp [same, queueOf, Ne.symm same]

/-- A lookup that boards gives no endpoint a second place. -/
theorem hasDistinctKeys_places_board
    {state : CacheState}
    (distinct : state.places.HasDistinctKeys)
    (lookup : Lookup)
    (endpoint : String) :
    (state.board lookup endpoint).1.places.HasDistinctKeys := by
  unfold board assign
  cases state.places.find? endpoint with
  | some placed => exact distinct
  | none => exact distinct.set endpoint lookup.ticket

/-! ## Departures -/

/-- A lookup departs and leaves its slot with a connection or without one: it is no
longer under way, the lock of its slot has passed on, and the place of its endpoint is
gone if the slot was there and is of no more use. -/
structure Departs
    (state : CacheState)
    (flight : Flight)
    (kept? : Option Ticket)
    (next : CacheState) : Prop where
  /-- The others are still under way. -/
  flights : next.flights = state.flights.filter (·.ticket ≠ flight.ticket)
  /-- Only its own slot is another one. -/
  slots : ∀ number, next.slotAt number =
    if number = flight.slot then
      ⟨kept?, (state.slotAt number).lock.leave flight.ticket⟩
    else state.slotAt number
  /-- Only the place of its own endpoint can be gone. -/
  places : ∀ endpoint, next.places.find? endpoint =
    if endpoint = flight.endpoint ∧ state.places.find? endpoint = some flight.slot ∧
        (next.slotAt flight.slot).isOccupied = false ∧
        ∀ other ∈ next.flights, other.slot ≠ flight.slot then none
    else state.places.find? endpoint
  /-- No endpoint has two places. -/
  distinct : state.places.HasDistinctKeys → next.places.HasDistinctKeys

@[simp]
theorem flights_reap
    (state : CacheState)
    (endpoint : String)
    (number : Ticket) :
    (state.reap endpoint number).flights = state.flights := by
  unfold reap
  split <;> rfl

@[simp]
theorem slotAt_reap
    (state : CacheState)
    (endpoint : String)
    (number other : Ticket) :
    (state.reap endpoint number).slotAt other = state.slotAt other := by
  unfold reap
  split <;> rfl

/-- Reaping takes a place away only if its slot is empty and no lookup uses it. -/
theorem find?_places_reap
    (state : CacheState)
    (endpoint other : String)
    (number : Ticket) :
    (state.reap endpoint number).places.find? other =
      if other = endpoint ∧ state.places.find? other = some number ∧
          (state.slotAt number).isOccupied = false ∧
          ∀ flight ∈ state.flights, flight.slot ≠ number then none
      else state.places.find? other := by
  unfold reap
  by_cases same : other = endpoint
  · subst same
    by_cases useless : state.places.find? other = some number ∧
        (state.slotAt number).isOccupied = false ∧
        state.flights.all (·.slot ≠ number)
    · rw [if_pos useless, Table.find?_erase_self, if_pos]
      exact ⟨rfl, useless.1, useless.2.1, by simpa using useless.2.2⟩
    · rw [if_neg useless, if_neg]
      rintro ⟨-, placed, unoccupied, unused⟩
      exact useless ⟨placed, unoccupied, by simpa using unused⟩
  · simp only [same, false_and, if_false]
    split
    · exact Table.find?_erase_of_ne _ same
    · rfl

theorem hasDistinctKeys_places_reap
    {state : CacheState}
    (distinct : state.places.HasDistinctKeys)
    (endpoint : String)
    (number : Ticket) :
    (state.reap endpoint number).places.HasDistinctKeys := by
  unfold reap
  split
  · exact distinct.erase endpoint
  · exact distinct

/-- A lookup that leaves departs, and its slot keeps what it has. -/
theorem departs_leave
    (state : CacheState)
    (flight : Flight) :
    state.Departs flight (state.slotAt flight.slot).connection? (state.leave flight) where
  flights := by
    rw [leave, flights_reap]
    rfl
  slots := by
    intro number
    rw [leave, slotAt_reap]
    change (state.setSlot _ _).slotAt number = _
    rw [slotAt_setSlot]
    by_cases same : number = flight.slot
    · subst same
      rfl
    · rw [if_neg same, if_neg same]
  places := by
    intro endpoint
    rw [leave, find?_places_reap, slotAt_reap, flights_reap]
    rfl
  distinct := by
    intro distinct
    rw [leave]
    apply hasDistinctKeys_places_reap
    exact distinct

/-- A lookup that fills its slot and leaves departs. -/
theorem departs_fill_leave
    (state : CacheState)
    (flight : Flight)
    (kept? : Option Ticket) :
    state.Departs flight kept? ((state.fill flight.slot kept?).leave flight) := by
  have departs := departs_leave (state.fill flight.slot kept?) flight
  refine ⟨departs.flights, ?_, departs.places, departs.distinct⟩
  intro number
  rw [departs.slots]
  by_cases same : number = flight.slot
  · subst same
    simp
  · simp [same]

namespace Departs

variable {state next : CacheState} {flight : Flight} {kept? : Option Ticket}

/-- A lookup that departs takes only itself away. -/
theorem mem_flights_iff
    (departs : state.Departs flight kept? next)
    {other : Flight} :
    other ∈ next.flights ↔ other ∈ state.flights ∧ other.ticket ≠ flight.ticket := by
  rw [departs.flights, List.mem_filter]
  simp

theorem inFlight
    (departs : state.Departs flight kept? next) :
    next.inFlight = state.inFlight.filter (· ≠ flight.ticket) := by
  rw [CacheState.inFlight, CacheState.inFlight, departs.flights, List.filter_map]
  rfl

/-- The lookup leaves its queue, and the rest keep their order. -/
theorem queueOf
    (departs : state.Departs flight kept? next)
    (number : Ticket) :
    next.queueOf number = (state.queueOf number).filter (· ≠ flight.ticket) := by
  rw [CacheState.queueOf, CacheState.queueOf, departs.flights, List.filter_map,
    List.filter_filter, List.filter_filter]
  congr 1
  apply List.filter_congr
  intro other _
  exact Bool.and_comm _ _

/-- The slot keeps what the lookup leaves there. -/
theorem connection?
    (departs : state.Departs flight kept? next)
    (number : Ticket) :
    (next.slotAt number).connection? =
      if number = flight.slot then kept? else (state.slotAt number).connection? := by
  rw [departs.slots]
  split <;> rfl

/-- The lookup lets its slot's lock go. -/
theorem lock
    (departs : state.Departs flight kept? next)
    (number : Ticket) :
    (next.slotAt number).lock =
      if number = flight.slot then (state.slotAt number).lock.leave flight.ticket
      else (state.slotAt number).lock := by
  rw [departs.slots]
  split <;> rfl

end Departs
end CacheState
end Switchboard
