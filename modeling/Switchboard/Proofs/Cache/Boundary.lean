import Switchboard.Proofs.Cache.Agreement
import Switchboard.Proofs.Cache.Endings

/-!
# Clears as boundaries

A clear cuts a history in two.  Lookups that were started before it keep their slots, which
have lost their places, and go on as if nothing were started any more; lookups that are
started after it get new slots at new places.  Neither side has anything to do with the
other.
-/

namespace Switchboard

/-- Whether an event starts a lookup. -/
def Event.isStart : Event → Bool
  | .start _ => true
  | .poll _ | .drop _ | .clear | .change _ => false

namespace History

/-- Whether a history has polled a lookup for the first time. -/
def isKnown
    (past : List Event)
    (ticket : Ticket) : Bool :=
  (lookup? past ticket).isSome

/-- Events without those that start lookups. -/
def withoutStarts (events : List Event) : List Event :=
  events.filter fun event => !event.isStart

end History

namespace Cache

open History

/-- Every endpoint has the same place in two turns, with the same slot, and the connection
there reports the same state. -/
structure SamePlaces (turn other : Turn) : Prop where
  places : ∀ endpoint,
    other.state.places.find? endpoint = turn.state.places.find? endpoint
  slots : ∀ endpoint number, turn.state.places.find? endpoint = some number →
    other.state.slotAt number = turn.state.slotAt number
  states : ∀ endpoint number connection,
    turn.state.places.find? endpoint = some number →
      (turn.state.slotAt number).connection? = some connection →
        other.surroundings.stateOf connection = turn.surroundings.stateOf connection

/-- What a clear between two parts of a history means.  The lookups of the first part are
those that it has polled for the first time. -/
structure CleanBoundary
    (cache : Cache)
    (surroundings : Surroundings)
    (past future : List Event) : Prop where
  /-- The clear does nothing but note itself. -/
  silent : ∀ effect ∈ (cache.step (cache.after surroundings past).surroundings
    (cache.after surroundings past).state .clear).effects, ∃ notice, effect = .notice notice
  /-- The clear changes nothing around the cache, and so no connection. -/
  unchanged : (cache.after surroundings (past ++ [.clear])).surroundings =
    (cache.after surroundings past).surroundings
  /-- After the clear no endpoint has a connection, or one on its way. -/
  forgotten : (cache.after surroundings (past ++ [.clear])).state.len = 0
  /-- No lookup of the second part gets a connection that a lookup of the first part has
  dialed. -/
  fresh : ∀ receiver connection, isKnown past receiver = false →
    .returned receiver (.ok connection) ∈
        (cache.after surroundings (past ++ .clear :: future)).effects →
      isKnown past connection = false
  /-- All is for the lookups of the first part as if no lookup were started in the second
  part. -/
  undisturbed : Agreement (isKnown past)
    (cache.after surroundings (past ++ .clear :: withoutStarts future))
    (cache.after surroundings (past ++ .clear :: future))
  /-- Lookups under way have one slot exactly when they share a span. -/
  shared : ∀ turn, turn = cache.after surroundings (past ++ .clear :: future) →
    ∀ left ∈ turn.state.flights, ∀ right ∈ turn.state.flights,
      left.slot = right.slot ↔
        cache.ShareSpan (past ++ .clear :: future) left.ticket right.ticket
  /-- The slots of the lookups of the first part have no places. -/
  detached : ∀ turn, turn = cache.after surroundings (past ++ .clear :: future) →
    ∀ flight ∈ turn.state.flights, isKnown past flight.ticket = true →
      ∀ endpoint, turn.state.places.find? endpoint ≠ some flight.slot
  /-- Whatever a lookup of the first part does when it is polled or dropped, the places stay
  as they are, and so do all lookups of the second part and their slots. -/
  contained : ∀ turn, turn = cache.after surroundings (past ++ .clear :: future) →
    ∀ ticket, isKnown past ticket = true →
      ∀ event, event = .poll ticket ∨ event = .drop ticket →
        SamePlaces turn (cache.next turn event) ∧
          Agreement (fun other => !isKnown past other) turn (cache.next turn event)

variable {cache : Cache} {surroundings : Surroundings} {past future : List Event}

/-! ## The two parts -/

/-- The lookups of the first part are those of the epochs before the clear. -/
theorem isKnown_eq
    {ticket : Ticket}
    {home : LookupSpan}
    (belongs : cache.span? (past ++ .clear :: future) ticket = some home) :
    isKnown past ticket = decide (home.epoch ≤ clears past) := by
  obtain ⟨lookup, -, rfl⟩ := span?_eq_some belongs
  cases known : isKnown past ticket with
  | true =>
      have early := epoch_le_clears past ticket
      rw [epoch_append_of_isSome known]
      exact (decide_eq_true early).symm
  | false =>
      have unknown : lookup? past ticket = none := by
        simpa [isKnown] using known
      have late : lookup? [.clear] ticket = none := rfl
      have opened : epoch (.clear :: future) ticket = 1 + epoch future ticket :=
        epoch_append_of_eq_none late future
      rw [epoch_append_of_eq_none unknown, opened, eq_comm, decide_eq_false_iff_not]
      dsimp only
      omega

/-- A lookup of the first part belongs to a span. -/
theorem exists_span_of_isKnown
    (cache : Cache)
    {ticket : Ticket}
    (known : isKnown past ticket = true)
    (more : List Event) :
    ∃ home, cache.span? (past ++ more) ticket = some home := by
  obtain ⟨lookup, found⟩ := Option.isSome_iff_exists.mp known
  refine ⟨⟨cache.family.resolve lookup.address, epoch (past ++ more) ticket⟩, ?_⟩
  rw [span?, lookup?_append, found]
  rfl

theorem hasWholeSpans_isKnown
    (cache : Cache)
    (past future : List Event) :
    HasWholeSpans (isKnown past) (cache.span? (past ++ .clear :: future)) := by
  intro left right home leftBelongs rightBelongs
  rw [isKnown_eq leftBelongs, isKnown_eq rightBelongs]

/-- After the clear the slots at the places have been made by lookups of the second part. -/
theorem isKnown_of_find?_places
    (cache : Cache)
    (surroundings : Surroundings)
    (past future : List Event)
    {endpoint : String}
    {number : Ticket}
    (placed : (cache.after surroundings
      (past ++ .clear :: future)).state.places.find? endpoint = some number) :
    isKnown past number = false := by
  have reached := cache.reached_end surroundings (past ++ .clear :: future)
  rw [isKnown_eq (reached.charted.places_span endpoint number placed),
    decide_eq_false_iff_not]
  have opened : clears (.clear :: future) = 1 + clears future := clears_append [.clear] future
  rw [clears_append, opened]
  dsimp only
  omega

/-- After the clear the slots of the lookups of the first part have no places. -/
theorem find?_places_ne_of_isKnown
    (cache : Cache)
    (surroundings : Surroundings)
    (past future : List Event)
    {flight : Flight}
    (member : flight ∈
      (cache.after surroundings (past ++ .clear :: future)).state.flights)
    (known : isKnown past flight.ticket = true)
    (endpoint : String) :
    (cache.after surroundings (past ++ .clear :: future)).state.places.find? endpoint ≠
      some flight.slot := by
  intro placed
  have reached := cache.reached_end surroundings (past ++ .clear :: future)
  have late := isKnown_of_find?_places cache surroundings past future placed
  rw [reached.keep_slot (hasWholeSpans_isKnown cache past future) member, known] at late
  cases late

/-! ## Undisturbed lookups -/

/-- A poll or drop, whether of a lookup of the first part or not, leaves two histories after
the clear in agreement. -/
theorem agreement_next_of_named
    {other : List Event}
    (agree : Agreement (isKnown past)
      (cache.after surroundings (past ++ .clear :: other))
      (cache.after surroundings (past ++ .clear :: future)))
    {ticket : Ticket}
    {event : Event}
    (named : event = .poll ticket ∨ event = .drop ticket) :
    Agreement (isKnown past)
      (cache.next (cache.after surroundings (past ++ .clear :: other)) event)
      (cache.next (cache.after surroundings (past ++ .clear :: future)) event) := by
  have whole := hasWholeSpans_isKnown cache past
  have reached := fun events => cache.reached_end surroundings (past ++ .clear :: events)
  cases known : isKnown past ticket with
  | true =>
      rcases named with rfl | rfl
      · exact (reached other).agreement_poll (whole other) agree known
      · exact (reached other).agreement_drop (whole other) agree known
  | false =>
      have beside := fun events => (reached events).agreement_beside (whole events) known named
      exact (beside other).symm.trans (agree.trans (beside future))

/-- Lookups that are started after the clear disturb no lookup of the first part. -/
theorem agreement_withoutStarts
    (cache : Cache)
    (surroundings : Surroundings)
    (past future : List Event) :
    Agreement (isKnown past)
      (cache.after surroundings (past ++ .clear :: withoutStarts future))
      (cache.after surroundings (past ++ .clear :: future)) := by
  have concat : ∀ (events : List Event) (event : Event),
      cache.after surroundings (past ++ .clear :: (events ++ [event])) =
        cache.next (cache.after surroundings (past ++ .clear :: events)) event := by
    intro events event
    rw [← after_concat, List.append_assoc, List.cons_append]
  induction future using List.reverseRecOn with
  | nil => exact .refl _ _
  | append_singleton future event agree =>
      have withoutStarts_concat : event.isStart = false →
          withoutStarts (future ++ [event]) = withoutStarts future ++ [event] := by
        intro other
        simp [withoutStarts, other]
      cases event with
      | start lookup =>
          have left : withoutStarts (future ++ [.start lookup]) = withoutStarts future := by
            simp [withoutStarts, Event.isStart]
          rw [left, concat]
          apply agree.trans
          cases known : isKnown past lookup.ticket with
          | true =>
              have started : lookup.ticket ∈ (cache.after surroundings
                  (past ++ .clear :: future)).surroundings.started := by
                apply mem_started_of_lookup?
                rw [lookup?_append, Option.isSome_or]
                exact Bool.or_eq_true_iff.mpr (Or.inl known)
              rw [next_start_of_mem started]
              exact .refl _ _
          | false =>
              have reached := cache.reached_after surroundings (past ++ .clear :: future)
                [.start lookup]
              have belongs := cache.span?_of_start surroundings (past ++ .clear :: future) []
                (.start lookup)
              rw [List.append_assoc, List.cons_append] at reached belongs
              apply reached.agreement_next (hasWholeSpans_isKnown cache past _) belongs known
              exact Or.inr (Or.inr ⟨lookup, rfl, rfl⟩)
      | poll ticket =>
          rw [withoutStarts_concat rfl, concat, concat]
          exact agreement_next_of_named agree (Or.inl rfl)
      | drop ticket =>
          rw [withoutStarts_concat rfl, concat, concat]
          exact agreement_next_of_named agree (Or.inr rfl)
      | clear =>
          rw [withoutStarts_concat rfl, concat, concat]
          exact agree.clear cache
      | change change =>
          rw [withoutStarts_concat rfl, concat, concat, next_change, next_change]
          exact agree.change change

/-! ## Detached slots -/

/-- A lookup whose slot has no place leaves the places as they are. -/
theorem parallel_detached
    {flight : Flight}
    {origin : Turn}
    (detached : ∀ endpoint, origin.state.places.find? endpoint ≠ some flight.slot) :
    Parallel (fun turn other => other = turn ∧ ∀ endpoint,
      turn.state.places.find? endpoint = origin.state.places.find? endpoint) flight flight where
  ticket := rfl
  endpoint := rfl
  slot := rfl
  authorizer := rfl
  environment := by
    rintro turn other ⟨rfl, -⟩
    rfl
  answer := by
    rintro turn other ⟨rfl, -⟩
    rfl
  slotAt := by
    rintro turn other ⟨rfl, -⟩
    rfl
  stateOf := by
    rintro turn other connection ⟨rfl, -⟩ held
    rfl
  record := by
    rintro turn other ⟨rfl, same⟩ effects own
    exact ⟨rfl, same⟩
  report := by
    rintro turn other ⟨rfl, same⟩ connection state own
    exact ⟨rfl, same⟩
  fill := by
    rintro turn other ⟨rfl, same⟩ connection? own
    exact ⟨rfl, same⟩
  markDialing := by
    rintro turn other ⟨rfl, same⟩ config
    exact ⟨rfl, same⟩
  leave := by
    rintro turn other ⟨rfl, same⟩
    refine ⟨rfl, fun endpoint => ?_⟩
    change (other.state.leave flight).places.find? endpoint = _
    rw [(other.state.departs_leave flight).places, if_neg, same]
    rintro ⟨-, here, -⟩
    exact detached endpoint (same endpoint ▸ here)

/-- A poll or drop of a lookup whose slot has no place leaves the places as they are. -/
theorem find?_places_next_of_detached
    (cache : Cache)
    {turn : Turn}
    {ticket : Ticket}
    (detached : ∀ flight ∈ turn.state.flights, flight.ticket = ticket →
      ∀ endpoint, turn.state.places.find? endpoint ≠ some flight.slot)
    {event : Event}
    (named : event = .poll ticket ∨ event = .drop ticket)
    (endpoint : String) :
    (cache.next turn event).state.places.find? endpoint =
      turn.state.places.find? endpoint := by
  rcases named with rfl | rfl
  · cases found : turn.state.flight? ticket with
    | none => rw [next_poll_of_none found]
    | some flight =>
        obtain ⟨member, named⟩ := CacheState.flight?_eq_some found
        have parallel := parallel_detached (detached flight member named)
        rw [next_poll_of_some found]
        exact (parallel.advance ⟨rfl, fun _ => rfl⟩ cache rfl rfl).2 endpoint
  · cases found : turn.state.flight? ticket with
    | none => rw [next_drop_of_none found]
    | some flight =>
        obtain ⟨member, named⟩ := CacheState.flight?_eq_some found
        have parallel := parallel_detached (detached flight member named)
        rw [next_drop_of_some found]
        exact (parallel.leave ⟨rfl, fun _ => rfl⟩).2 endpoint

/-- After every history a clear is a clean boundary, whatever happens then. -/
theorem cleanBoundary_after
    (cache : Cache)
    (surroundings : Surroundings)
    (past future : List Event) :
    cache.CleanBoundary surroundings past future where
  silent effect member := ⟨_, List.mem_singleton.mp member⟩
  unchanged := by
    rw [after_concat]
    rfl
  forgotten := by
    rw [after_concat]
    rfl
  fresh receiver connection unknown returned := by
    have reached := cache.reached_end surroundings (past ++ .clear :: future)
    have home := reached.endings.home receiver connection returned
    by_contra known
    rw [Bool.not_eq_false] at known
    obtain ⟨span, belongs⟩ := cache.exists_span_of_isKnown known (.clear :: future)
    have same := hasWholeSpans_isKnown cache past future _ _ _ belongs (home ▸ belongs)
    rw [known, unknown] at same
    cases same
  undisturbed := agreement_withoutStarts cache surroundings past future
  shared := by
    have charted := (cache.reached_end surroundings (past ++ .clear :: future)).charted
    rintro turn rfl left leftMember right rightMember
    rw [shareSpan_iff]
    constructor
    · intro same
      obtain ⟨epoch, leftBelongs, slot⟩ := charted.flights_span left leftMember
      refine ⟨_, leftBelongs, ?_⟩
      rw [← charted.span_slot rightMember, ← same, slot]
    · rintro ⟨span, leftBelongs, rightBelongs⟩
      apply charted.slot_eq_of_span_eq leftMember rightMember
      rw [leftBelongs, rightBelongs]
  detached := by
    rintro turn rfl flight member known endpoint
    exact find?_places_ne_of_isKnown cache surroundings past future member known endpoint
  contained := by
    have reached := cache.reached_end surroundings (past ++ .clear :: future)
    rintro turn rfl ticket known event named
    have places := find?_places_next_of_detached cache (fun flight member own =>
      find?_places_ne_of_isKnown cache surroundings past future member (own ▸ known)) named
    have whole : HasWholeSpans (fun other => !isKnown past other)
        (cache.span? (past ++ .clear :: future)) := by
      intro left right span leftBelongs rightBelongs
      exact congrArg (!·) (hasWholeSpans_isKnown cache past future left right span
        leftBelongs rightBelongs)
    have unkept : (fun other => !isKnown past other) ticket = false :=
      congrArg (!·) known
    have agree := reached.agreement_beside whole unkept named
    refine ⟨⟨places, ?_, ?_⟩, agree⟩
    · intro endpoint number placed
      exact agree.slots number
        (congrArg (!·) (isKnown_of_find?_places cache surroundings past future placed))
    · intro endpoint number connection placed held
      apply agree.stateOf_eq
      rw [reached.keep_connection whole held]
      exact congrArg (!·) (isKnown_of_find?_places cache surroundings past future placed)

/-- A dial that succeeds after a clear gives its connection to a slot without a place, and the
lookup that was started after the clear goes on with its own dial. -/
example :
    let cache := Cache.ofFamily .agent (.ofFlag true)
    let surroundings := { Surroundings.initial with answer := fun _ _ => .pending }
    let lookup := fun ticket => Lookup.mk ticket "agent:1" .insecure none
    let turn := cache.after surroundings
      [.start (lookup 1), .clear, .start (lookup 2),
        .change (.answers fun _ _ => .connected none), .poll 1]
    turn.state.inFlight = [2] ∧ turn.state.places.entries.map (·.2) = [2] ∧
      (turn.state.slotAt 1).connection? = some 1 ∧
      (turn.state.slotAt 2).connection? = none := by
  decide

end Cache
end Switchboard
