import Switchboard.Proofs.Cache.Grounds

/-!
# Single flight

Lookups of one endpoint that no clear separates queue for one slot.  A lookup dials only
as the owner of its slot, and so no two of them dial at once.
-/

namespace Switchboard
namespace Cache

open History

/-- The lookups under way that are dialing an endpoint. -/
def dialsTo
    (cache : Cache)
    (state : CacheState)
    (endpoint : String) : List Flight :=
  state.flights.filter fun flight =>
    flight.isDialing ∧ cache.family.resolve flight.lookup.address = endpoint

theorem mem_dialsTo
    {cache : Cache}
    {state : CacheState}
    {endpoint : String}
    {flight : Flight} :
    flight ∈ cache.dialsTo state endpoint ↔
      flight ∈ state.flights ∧ flight.isDialing = true ∧
        cache.family.resolve flight.lookup.address = endpoint := by
  rw [dialsTo, List.mem_filter, decide_eq_true_iff]

/-- No two dials to one endpoint are pending at once, unless a clear lies between the first
polls of their lookups. -/
structure SingleFlight
    (cache : Cache)
    (events : List Event)
    (turn : Turn) : Prop where
  /-- Any two pending dials to one endpoint belong to lookups that a clear separates. -/
  separated : ∀ endpoint, (cache.dialsTo turn.state endpoint).Pairwise fun left right =>
    SeparatedByClear events left.ticket right.ticket
  /-- A clear also separates the lookup of a pending dial from one that dials the endpoint
  at the next event. -/
  begun : ∀ event ticket endpoint config,
    .dialed ticket endpoint config ∈
        (cache.step turn.surroundings turn.state event).effects →
      ∀ flight ∈ cache.dialsTo turn.state endpoint,
        SeparatedByClear (events ++ [event]) flight.ticket ticket
  /-- Without a clear one dial to an endpoint is pending at most. -/
  alone : .clear ∉ events → ∀ endpoint, (cache.dialsTo turn.state endpoint).length ≤ 1
  /-- Without a clear all lookups under way of one endpoint have the one slot that is at
  the place of the endpoint. -/
  shared : .clear ∉ events → ∀ flight ∈ turn.state.flights,
    turn.state.places.find? (cache.family.resolve flight.lookup.address) =
      some flight.slot

variable {cache : Cache} {events : List Event} {now : Nat} {turn : Turn}

/-- Lookups under way of one endpoint that no clear separates have one slot. -/
theorem Reached.slot_eq
    (reached : Reached cache (cache.span? events) now turn)
    {left right : Flight}
    (leftMember : left ∈ turn.state.flights)
    (rightMember : right ∈ turn.state.flights)
    (endpoint :
      cache.family.resolve left.lookup.address =
        cache.family.resolve right.lookup.address)
    (together : ¬SeparatedByClear events left.ticket right.ticket) :
    left.slot = right.slot := by
  have charted := reached.charted
  obtain ⟨leftEpoch, leftSpan, -⟩ := charted.flights_span left leftMember
  obtain ⟨rightEpoch, rightSpan, -⟩ := charted.flights_span right rightMember
  obtain ⟨leftLookup, leftFound, leftSame⟩ := span?_eq_some leftSpan
  obtain ⟨rightLookup, rightFound, rightSame⟩ := span?_eq_some rightSpan
  rw [LookupSpan.mk.injEq] at leftSame rightSame
  have leftKnown : (lookup? events left.ticket).isSome := by simp [leftFound]
  have rightKnown : (lookup? events right.ticket).isSome := by simp [rightFound]
  rw [separatedByClear_iff leftKnown rightKnown, not_ne_iff] at together
  apply charted.slot_eq_of_span_eq leftMember rightMember
  rw [leftSpan, rightSpan, leftSame.2, rightSame.2, together,
    reached.endpoint_eq left leftMember, reached.endpoint_eq right rightMember, endpoint]

/-- A lookup that has its turn finds nobody of its endpoint dialing, except beyond a
clear. -/
theorem Reached.separated_of_enters
    (reached : Reached cache (cache.span? events) now turn)
    {flight other : Flight}
    (member : flight ∈ turn.state.flights)
    (enters : Enters turn.surroundings turn.state flight)
    (pending :
      other ∈ cache.dialsTo turn.state (cache.family.resolve flight.lookup.address)) :
    SeparatedByClear events other.ticket flight.ticket := by
  obtain ⟨otherMember, dialing, endpoint⟩ := mem_dialsTo.mp pending
  by_contra together
  have slot := reached.slot_eq otherMember member endpoint together
  have owns := (reached.queued.dialing other otherMember dialing).1
  rw [slot, enters.owns, Option.some.injEq] at owns
  have same := reached.queued.eq_of_ticket_eq member otherMember owns
  rw [← same] at dialing
  exact Flight.isDialing_ne_true_of_waiting enters.waiting dialing

/-- Pending dials to one endpoint belong to lookups that a clear separates. -/
theorem Reached.pairwise_dialsTo
    (reached : Reached cache (cache.span? events) now turn)
    (endpoint : String) :
    (cache.dialsTo turn.state endpoint).Pairwise fun left right =>
      SeparatedByClear events left.ticket right.ticket := by
  have queued := reached.queued
  have distinct : (cache.dialsTo turn.state endpoint).Pairwise fun left right =>
      left.ticket ≠ right.ticket :=
    (List.pairwise_map.mp queued.distinct).filter _
  refine distinct.imp_of_mem ?_
  intro left right leftPending rightPending different
  obtain ⟨leftMember, leftDialing, leftEndpoint⟩ := mem_dialsTo.mp leftPending
  obtain ⟨rightMember, rightDialing, rightEndpoint⟩ := mem_dialsTo.mp rightPending
  by_contra together
  have slot := reached.slot_eq leftMember rightMember
    (leftEndpoint.trans rightEndpoint.symm) together
  have same := queued.eq_of_dialing leftMember rightMember leftDialing rightDialing slot
  exact different (congrArg Flight.ticket same)

/-- Without a clear every lookup under way has the slot at the place of its endpoint. -/
theorem Reached.find?_places
    (reached : Reached cache (cache.span? events) (clears events) turn)
    (unbroken : .clear ∉ events)
    {flight : Flight}
    (member : flight ∈ turn.state.flights) :
    turn.state.places.find? (cache.family.resolve flight.lookup.address) =
      some flight.slot := by
  have charted := reached.charted
  have used := CacheState.isUsed_of_mem member
  obtain ⟨epoch, -, belongs⟩ := charted.flights_span flight member
  have first := charted.past flight.slot _ used belongs
  rw [clears_eq_zero unbroken, Nat.le_zero] at first
  dsimp only at first
  rw [← reached.endpoint_eq flight member]
  apply charted.placed _ _ used
  rw [belongs, clears_eq_zero unbroken, first]

/-- A lookup is polled while the others are under way. -/
theorem Polls.flights_subset
    {event : Event}
    {moment : Turn}
    {flight : Flight}
    (polls : cache.Polls turn event moment flight) :
    turn.state.flights ⊆ moment.state.flights := by
  cases polls with
  | again member => exact List.Subset.refl _
  | first new unfired =>
      change _ ⊆ (turn.state.board _ _).1.flights
      rw [CacheState.flights_board]
      exact List.subset_append_left _ _

/-- A lookup that begins to dial finds no dial to its endpoint pending, except beyond a
clear. -/
theorem separated_of_dialed
    (surroundings : Surroundings)
    {event : Event}
    {ticket : Ticket}
    {endpoint : String}
    {config : DialConfig}
    (dials : .dialed ticket endpoint config ∈
      (cache.step (cache.after surroundings events).surroundings
        (cache.after surroundings events).state event).effects)
    {other : Flight}
    (pending : other ∈ cache.dialsTo (cache.after surroundings events).state endpoint) :
    SeparatedByClear (events ++ [event]) other.ticket ticket := by
  have reached := cache.reached_after surroundings events [event]
  rcases grounds_step dials with
    ⟨moment, flight, polls, rfl, rfl, redials, -⟩ | ⟨lookup, -, -, equal⟩ | ⟨notice, equal⟩
  · have momentReached :=
      polls.reached reached (cache.span?_of_start surroundings events [] event)
    obtain ⟨otherMember, dialing, endpoint⟩ := mem_dialsTo.mp pending
    apply momentReached.separated_of_enters polls.mem_flights redials.enters
    rw [mem_dialsTo, ← momentReached.endpoint_eq flight polls.mem_flights]
    exact ⟨polls.flights_subset otherMember, dialing, endpoint⟩
  · cases equal
  · cases equal

/-- Where no two of a list stand in a relation, the list has one member at most. -/
theorem length_le_one_of_pairwise
    {flights : List Flight}
    {relation : Flight → Flight → Prop}
    (pairwise : flights.Pairwise relation)
    (never : ∀ left right, ¬relation left right) :
    flights.length ≤ 1 := by
  cases pairwise with
  | nil => exact Nat.zero_le 1
  | @cons first others related rest =>
      cases others with
      | nil => exact Nat.le_refl 1
      | cons second more =>
          exact absurd (related second List.mem_cons_self) (never first second)

/-- After every history dials are in single flight. -/
theorem singleFlight_after
    (cache : Cache)
    (surroundings : Surroundings)
    (events : List Event) :
    cache.SingleFlight events (cache.after surroundings events) := by
  have reached := cache.reached_end surroundings events
  refine ⟨reached.pairwise_dialsTo, ?_, ?_, ?_⟩
  · intro event ticket endpoint config dials flight pending
    exact separated_of_dialed surroundings dials pending
  · intro unbroken endpoint
    apply length_le_one_of_pairwise (reached.pairwise_dialsTo endpoint)
    rintro left right ⟨past, future, whole, -⟩
    apply unbroken
    rw [whole]
    exact List.mem_append_right past List.mem_cons_self
  · intro unbroken flight member
    exact reached.find?_places unbroken member

/-- A clear makes room for a second dial to an endpoint. -/
example :
    let cache := Cache.ofFamily .agent (.ofFlag true)
    let surroundings := { Surroundings.initial with answer := fun _ _ => .pending }
    let lookup := fun ticket => Lookup.mk ticket "agent:1" .insecure none
    let turn := cache.after surroundings [.start (lookup 1), .clear, .start (lookup 2)]
    (cache.dialsTo turn.state "agent:1").map Flight.ticket = [1, 2] := by
  decide

end Cache
end Switchboard
