import Switchboard.Proofs.Cache.Reached

/-!
# Inspection

A slot at the place of an endpoint has a connection or is locked by a lookup under way.
Hence whoever asks which endpoints a cache knows is told exactly which places there are,
and an endpoint keeps its place no longer than its connection or its lookups need it.
-/

namespace Switchboard

/-- The connection in the slot at the place of an endpoint. -/
def CacheState.cached?
    (state : CacheState)
    (endpoint : String) : Option Ticket :=
  (state.places.find? endpoint).bind fun number => (state.slotAt number).connection?

/-- Exactly so many endpoints have a property. -/
def AreCounted
    (property : String → Prop)
    (count : Nat) : Prop :=
  ∃ endpoints : List String, endpoints.Nodup ∧
    (∀ endpoint, endpoint ∈ endpoints ↔ property endpoint) ∧ endpoints.length = count

namespace Cache

open History

/-- A lookup of an endpoint is under way that has been polled for the first time after the
last clear. -/
def IsAwaited
    (cache : Cache)
    (events : List Event)
    (state : CacheState)
    (endpoint : String) : Prop :=
  ∃ flight ∈ state.flights,
    cache.family.resolve flight.lookup.address = endpoint ∧
      StartsAfterLastClear events flight.ticket

/-- The places of a cache are those of use, and inspection tells them. -/
structure Inspected
    (cache : Cache)
    (events : List Event)
    (state : CacheState) : Prop where
  /-- An endpoint has a place exactly if the slot there has a connection, or a lookup of
  the endpoint is under way. -/
  placed_iff : ∀ endpoint, (state.places.find? endpoint).isSome ↔
    (state.cached? endpoint).isSome ∨ cache.IsAwaited events state endpoint
  /-- An address is contained exactly if its endpoint has a place. -/
  contains_iff : ∀ address, cache.contains state address = true ↔
    (state.places.find? (cache.family.resolve address)).isSome
  /-- The length is the number of endpoints that have places. -/
  counted : AreCounted (fun endpoint => (state.places.find? endpoint).isSome) state.len
  /-- Once no lookup is under way, only endpoints with connections have places. -/
  settled : state.flights = [] → ∀ endpoint,
    (state.places.find? endpoint).isSome → (state.cached? endpoint).isSome
  /-- Once no lookup is under way, the length is the number of cached connections. -/
  settled_counted : state.flights = [] →
    AreCounted (fun endpoint => (state.cached? endpoint).isSome) state.len

end Cache

namespace CacheState.Charted

variable {state : CacheState} {span : Ticket → Option LookupSpan} {now : Nat}
  {started : List Ticket}

/-- A slot that has a place has a connection or is locked. -/
theorem isOccupied
    (charted : Charted state span now)
    (queued : Queued state started)
    {endpoint : String}
    {number : Ticket}
    (placed : state.places.find? endpoint = some number) :
    (state.slotAt number).isOccupied = true := by
  rw [Slot.isOccupied, Bool.or_eq_true]
  rcases charted.occupied endpoint number placed with
    ⟨connection, held⟩ | ⟨flight, member, rfl⟩
  · exact Or.inl (Option.isSome_of_eq_some held)
  · exact Or.inr (queued.isTaken_of_mem member)

theorem holds_iff
    (charted : Charted state span now)
    (queued : Queued state started)
    (endpoint : String) :
    state.holds endpoint = true ↔ (state.places.find? endpoint).isSome := by
  rw [holds]
  cases placed : state.places.find? endpoint with
  | none => simp
  | some number => simp [charted.isOccupied queued placed]

/-- Every place counts. -/
theorem len_eq
    (charted : Charted state span now)
    (queued : Queued state started) :
    state.len = state.places.keys.length := by
  rw [len, Table.keys, List.length_map, List.countP_eq_length]
  rintro ⟨endpoint, number⟩ member
  exact charted.isOccupied queued (charted.keys.find?_eq_some_iff.mpr member)

/-- The length is the number of places. -/
theorem areCounted_places
    (charted : Charted state span now)
    (queued : Queued state started) :
    AreCounted (fun endpoint => (state.places.find? endpoint).isSome) state.len := by
  refine ⟨state.places.keys, charted.keys, ?_, (charted.len_eq queued).symm⟩
  intro endpoint
  exact charted.keys.mem_keys_iff.trans Option.isSome_iff_exists.symm

end CacheState.Charted

namespace Cache

open History

variable {cache : Cache} {events : List Event} {turn : Turn}

/-- A lookup under way belongs to the present epoch exactly if it has been polled for the
first time after the last clear. -/
theorem Reached.startsAfterLastClear_iff
    (reached : Reached cache (cache.span? events) (clears events) turn)
    {flight : Flight}
    (member : flight ∈ turn.state.flights) :
    StartsAfterLastClear events flight.ticket ↔
      cache.span? events flight.slot = some ⟨flight.endpoint, clears events⟩ := by
  obtain ⟨epoch, belongs, slot⟩ := reached.charted.flights_span flight member
  obtain ⟨lookup, found, same⟩ := span?_eq_some belongs
  have known : (lookup? events flight.ticket).isSome := by simp [found]
  rw [LookupSpan.mk.injEq] at same
  rw [History.startsAfterLastClear_iff known, slot, ← same.2]
  simp

/-- A lookup under way keeps the place of its endpoint, unless the cache has been cleared
since. -/
theorem Reached.find?_places_of_startsAfterLastClear
    (reached : Reached cache (cache.span? events) (clears events) turn)
    {flight : Flight}
    (member : flight ∈ turn.state.flights)
    (present : StartsAfterLastClear events flight.ticket) :
    turn.state.places.find? flight.endpoint = some flight.slot := by
  have belongs := (reached.startsAfterLastClear_iff member).mp present
  exact reached.charted.placed _ _ (CacheState.isUsed_of_mem member) belongs

theorem Reached.placed_iff
    (reached : Reached cache (cache.span? events) (clears events) turn)
    (endpoint : String) :
    (turn.state.places.find? endpoint).isSome ↔
      (turn.state.cached? endpoint).isSome ∨
        cache.IsAwaited events turn.state endpoint := by
  have charted := reached.charted
  constructor
  · intro isPlaced
    obtain ⟨number, placed⟩ := Option.isSome_iff_exists.mp isPlaced
    rcases charted.occupied endpoint number placed with
      ⟨connection, held⟩ | ⟨flight, member, rfl⟩
    · left
      rw [CacheState.cached?, placed, Option.bind_some, held]
      rfl
    · right
      have home := charted.places_span endpoint flight.slot placed
      obtain ⟨epoch, -, slot⟩ := charted.flights_span flight member
      have same := slot.symm.trans home
      rw [Option.some.injEq, LookupSpan.mk.injEq] at same
      refine ⟨flight, member, ?_, ?_⟩
      · rw [← reached.endpoint_eq flight member]
        exact same.1
      · rw [reached.startsAfterLastClear_iff member, slot, same.2]
  · rintro (isCached | ⟨flight, member, rfl, present⟩)
    · obtain ⟨connection, cached⟩ := Option.isSome_iff_exists.mp isCached
      obtain ⟨number, placed, -⟩ := Option.bind_eq_some_iff.mp cached
      exact Option.isSome_of_eq_some placed
    · have placed := reached.find?_places_of_startsAfterLastClear member present
      rw [← reached.endpoint_eq flight member, placed]
      rfl

/-- After every history inspection is exact. -/
theorem inspected_after
    (cache : Cache)
    (surroundings : Surroundings)
    (events : List Event) :
    cache.Inspected events (cache.after surroundings events).state := by
  have reached := cache.reached_end surroundings events
  have charted := reached.charted
  have queued := reached.queued
  have counted := charted.areCounted_places queued
  have noneAwaited : (cache.after surroundings events).state.flights = [] →
      ∀ endpoint, ((cache.after surroundings events).state.places.find? endpoint).isSome ↔
        ((cache.after surroundings events).state.cached? endpoint).isSome := by
    intro settled endpoint
    rw [reached.placed_iff]
    refine or_iff_left ?_
    rintro ⟨flight, member, -⟩
    rw [settled] at member
    exact List.not_mem_nil member
  refine ⟨reached.placed_iff, ?_, counted, ?_, ?_⟩
  · intro address
    exact charted.holds_iff queued _
  · intro settled endpoint
    exact (noneAwaited settled endpoint).mp
  · intro settled
    obtain ⟨endpoints, distinct, mem_iff, length⟩ := counted
    refine ⟨endpoints, distinct, ?_, length⟩
    intro endpoint
    exact (mem_iff endpoint).trans (noneAwaited settled endpoint)

end Cache
end Switchboard
