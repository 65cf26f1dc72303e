import Switchboard.Proofs.Cache.Deletion
import Switchboard.Proofs.Cache.Whereabouts

/-!
# Endpoints apart

What becomes of the lookups of an endpoint does not depend on lookups of other endpoints.
All of these can be deleted from a history; the lookups of the endpoint do the same at each of
their polls.
-/

namespace Switchboard

/-- Whether an effect is a dial to an endpoint, or closes a connection to it. -/
def Effect.isDeedAt
    (effect : Effect)
    (endpoint : String) : Bool :=
  match effect with
  | .dialed _ other _ | .closed _ _ other _ => decide (other = endpoint)
  | .notice _ | .consulted _ _ | .returned _ _ => false

namespace Cache

open History

/-- The turn to which a first part of a history brings a new cache when only the lookups of an
endpoint are left of the history. -/
def aloneAfter
    (cache : Cache)
    (surroundings : Surroundings)
    (events past : List Event)
    (endpoint : String) : Turn :=
  cache.after (surroundings.confine endpoint)
    (only (cache.isFor events endpoint) endpoint past)

/-- Two turns of a cache are alike for some lookups of an endpoint. -/
structure Alike
    (cache : Cache)
    (keep : Ticket → Bool)
    (endpoint : String)
    (turn alone : Turn) : Prop where
  /-- The lookups have asked, dialed, closed and returned the same, in the same order. -/
  effects : alone.effects.filter (·.isOf keep) = turn.effects.filter (·.isOf keep)
  /-- The endpoint has been dialed, and connections to it closed, in the same way and order. -/
  deeds : alone.effects.filter (·.isDeedAt endpoint) =
    turn.effects.filter (·.isDeedAt endpoint)
  /-- The same addresses of the endpoint are contained. -/
  contains : ∀ address, cache.family.resolve address = endpoint →
    cache.contains alone.state address = cache.contains turn.state address
  /-- The same of the lookups are under way. -/
  inFlight : alone.state.inFlight.filter keep = turn.state.inFlight.filter keep
  /-- Their connections report the same states. -/
  states : ∀ connection, keep connection = true →
    alone.surroundings.stateOf connection = turn.surroundings.stateOf connection

/-- The lookups of an endpoint have nothing to do with those of other endpoints. -/
structure Isolated
    (cache : Cache)
    (surroundings : Surroundings)
    (events : List Event)
    (endpoint : String) : Prop where
  /-- At each of their polls, and whatever else happens to them, the lookups do what they do
  when only they are left. -/
  polls : ∀ past event future ticket, events = past ++ event :: future →
    event.ticket? = some ticket → cache.isFor events endpoint ticket = true →
      ∀ turn alone, turn = cache.after surroundings past →
        alone = cache.aloneAfter surroundings events past endpoint →
          (cache.step alone.surroundings alone.state event).effects.filter
              (·.isOf (cache.isFor events endpoint)) =
            (cache.step turn.surroundings turn.state event).effects.filter
              (·.isOf (cache.isFor events endpoint))
  /-- At every moment all is alike for them. -/
  alike : ∀ past future, events = past ++ future →
    cache.Alike (cache.isFor events endpoint) endpoint (cache.after surroundings past)
      (cache.aloneAfter surroundings events past endpoint)
  /-- A lookup waits only for lookups of its own endpoint. -/
  waits : ∀ past future, events = past ++ future →
    ∀ flight ∈ (cache.after surroundings past).state.flights,
      ∃ owner ∈ (cache.after surroundings past).state.flights,
        ((cache.after surroundings past).state.slotAt flight.slot).lock.owner? =
            some owner.ticket ∧
          cache.family.resolve owner.lookup.address =
            cache.family.resolve flight.lookup.address

variable {cache : Cache} {keep : Ticket → Bool} {span : Ticket → Option LookupSpan}
  {endpoint : String} {now : Nat} {turn alone : Turn} {event : Event}

/-- What is done to an endpoint is done by its lookups. -/
theorem Reached.filter_isDeedAt
    (reached : Reached cache span now turn) :
    turn.effects.filter (·.isDeedAt endpoint) =
      (turn.effects.filter (·.isOf (belongsTo span endpoint))).filter
        (·.isDeedAt endpoint) := by
  rw [List.filter_filter]
  apply List.filter_congr
  intro effect member
  have home := reached.isAtHome effect member
  have kept : ∀ ticket other, (span ticket).map (·.endpoint) = some other →
      decide (other = endpoint) =
        (decide (other = endpoint) && belongsTo span endpoint ticket) := by
    intro ticket other belongs
    obtain ⟨span, found, rfl⟩ := Option.map_eq_some_iff.mp belongs
    rw [belongsTo, found, Option.any_some, Bool.and_self]
  cases effect with
  | notice notice => rfl
  | consulted ticket question => rfl
  | returned ticket outcome => rfl
  | dialed ticket other config => exact kept ticket other home
  | closed ticket connection other state => exact kept ticket other home.1

/-! ## Two turns in step -/

/-- A turn, and one in which only the lookups of an endpoint are left. -/
structure Mirrored
    (cache : Cache)
    (span : Ticket → Option LookupSpan)
    (endpoint : String)
    (now : Nat)
    (turn alone : Turn) : Prop where
  reached : Reached cache span now turn
  reachedAlone : Reached cache span now alone
  agree : Agreement (belongsTo span endpoint) (turn.confine endpoint) alone
  started : ∀ ticket, belongsTo span endpoint ticket = true →
    (ticket ∈ alone.surroundings.started ↔ ticket ∈ turn.surroundings.started)

namespace Mirrored

/-- The endpoint has the same place in both turns. -/
theorem find?_places
    (mirrored : Mirrored cache span endpoint now turn alone) :
    alone.state.places.find? endpoint = turn.state.places.find? endpoint := by
  have whole := hasWholeSpans_belongsTo span endpoint
  have confined := mirrored.reached.confine endpoint
  apply Option.ext
  intro number
  constructor
  · intro placed
    have kept := belongsTo_of_eq_some
      (mirrored.reachedAlone.charted.places_span endpoint number placed)
    exact mirrored.reachedAlone.find?_places_of_agreement confined whole mirrored.agree.symm
      kept placed
  · intro placed
    have kept := belongsTo_of_eq_some
      (mirrored.reached.charted.places_span endpoint number placed)
    exact confined.find?_places_of_agreement mirrored.reachedAlone whole mirrored.agree kept
      placed

/-- Something happens elsewhere that the lookups of the endpoint do not see. -/
theorem elsewhere
    (mirrored : Mirrored cache span endpoint now turn alone)
    {surroundings : Surroundings}
    (grown : turn.surroundings.started ⊆ surroundings.started)
    (same : ∀ ticket, belongsTo span endpoint ticket = true →
      ticket ∈ surroundings.started → ticket ∈ turn.surroundings.started)
    (agree : Agreement (belongsTo span endpoint) turn { turn with surroundings }) :
    Mirrored cache span endpoint now { turn with surroundings } alone where
  reached := .elsewhere mirrored.reached surroundings grown
  reachedAlone := mirrored.reachedAlone
  agree := (agree.confine endpoint).symm.trans mirrored.agree
  started := fun ticket kept =>
    (mirrored.started ticket kept).trans ⟨(grown ·), same ticket kept⟩

/-- An event names one of the lookups of the endpoint. -/
theorem next_of_kept
    (mirrored : Mirrored cache span endpoint now turn alone)
    (belongs : ∀ lookup, event = .start lookup →
      lookup.ticket ∉ turn.surroundings.started →
        span lookup.ticket = some ⟨cache.family.resolve lookup.address, now⟩)
    {ticket : Ticket}
    (named : event.ticket? = some ticket)
    (kept : belongsTo span endpoint ticket = true) :
    Mirrored cache span endpoint now (cache.next turn event) (cache.next alone event) := by
  have place := mirrored.find?_places
  obtain ⟨reached, reachedAlone, agree, started⟩ := mirrored
  have whole := hasWholeSpans_belongsTo span endpoint
  have confined := reached.confine endpoint
  have unchanging : ∀ change, event ≠ .change change := by
    rintro change rfl
    cases named
  have belongsAlone : ∀ lookup, event = .start lookup →
      lookup.ticket ∉ alone.surroundings.started →
        span lookup.ticket = some ⟨cache.family.resolve lookup.address, now⟩ := by
    rintro lookup rfl new
    obtain rfl := Option.some.inj named
    exact belongs lookup rfl (mt (started _ kept).mpr new)
  have own : ∀ moment flight, cache.Polls turn event moment flight →
      flight.endpoint = endpoint := by
    intro moment flight polls
    obtain rfl := Option.some.inj (named.symm.trans polls.ticket?_eq)
    obtain ⟨epoch, home, -⟩ :=
      (polls.reached reached belongs).charted.flights_span flight polls.mem_flights
    exact eq_of_belongsTo kept home
  have next := reached.next event belongs
  have nextAlone := reachedAlone.next event belongsAlone
  rw [clears_eq_zero_of_named named] at next nextAlone
  refine ⟨next, nextAlone, ?_, ?_⟩
  · rw [← cache.next_confine unchanging own]
    cases event with
    | start lookup =>
        obtain rfl := Option.some.inj named
        refine confined.agreement_start reachedAlone whole agree kept
          (belongs lookup rfl) (started _ kept) fun new => ?_
        have same : cache.family.resolve lookup.address = endpoint :=
          eq_of_belongsTo kept (belongs lookup rfl new)
        rw [same]
        exact place
    | poll other =>
        obtain rfl := Option.some.inj named
        exact confined.agreement_poll whole agree kept
    | drop other =>
        obtain rfl := Option.some.inj named
        exact confined.agreement_drop whole agree kept
    | clear => cases named
    | change change => cases named
  · intro other otherKept
    rw [mem_started_next, mem_started_next, started other otherKept]

/-- An event names a lookup of another endpoint. -/
theorem next_beside
    (mirrored : Mirrored cache span endpoint now turn alone)
    (belongs : ∀ lookup, event = .start lookup →
      lookup.ticket ∉ turn.surroundings.started →
        span lookup.ticket = some ⟨cache.family.resolve lookup.address, now⟩)
    {ticket : Ticket}
    (named : event.ticket? = some ticket)
    (unkept : belongsTo span endpoint ticket = false) :
    Mirrored cache span endpoint now (cache.next turn event) alone := by
  have beside := mirrored.reached.agreement_next (hasWholeSpans_belongsTo span endpoint)
    belongs unkept (Event.ticket?_eq_some.mp named)
  have next := mirrored.reached.next event belongs
  rw [clears_eq_zero_of_named named] at next
  refine ⟨next, mirrored.reachedAlone, (beside.confine endpoint).symm.trans mirrored.agree, ?_⟩
  intro other kept
  rw [mirrored.started other kept, mem_started_next, or_iff_left]
  rintro ⟨lookup, rfl, rfl⟩
  obtain rfl := Option.some.inj named
  rw [unkept] at kept
  cases kept

/-- The cache is cleared in both turns. -/
theorem next_clear
    (mirrored : Mirrored cache span endpoint now turn alone) :
    Mirrored cache span endpoint (now + 1) (cache.next turn .clear)
      (cache.next alone .clear) where
  reached := .clear mirrored.reached
  reachedAlone := .clear mirrored.reachedAlone
  agree := mirrored.agree.clear cache
  started := mirrored.started

/-- The surroundings change, and what is left of the change happens in the other turn. -/
theorem next_change
    (mirrored : Mirrored cache span endpoint now turn alone)
    (change : Change) :
    Mirrored cache span endpoint now (cache.next turn (.change change))
      (cache.run alone
        ((Event.change change).only? (belongsTo span endpoint) endpoint).toList) := by
  have started : ∀ (turn : Turn) (change : Change),
      (turn.surroundings.apply change).started = turn.surroundings.started := by
    intro turn change
    have same : (cache.next turn (.change change)).surroundings.started =
        turn.surroundings.started :=
      started_next_of_ne_start cache turn (by simp)
    rwa [Cache.next_change] at same
  cases left : change.only? (belongsTo span endpoint) endpoint with
  | some remainder =>
      have both : (cache.next turn (.change change)).confine endpoint =
          cache.next (turn.confine endpoint) (.change remainder) :=
        next_change_confine cache turn left
      rw [Event.only?, left, Option.map_some, Option.toList_some]
      have next : Reached cache span now (cache.next turn (.change change)) :=
        mirrored.reached.next (.change change) (by simp)
      have nextAlone : Reached cache span now (cache.next alone (.change remainder)) :=
        mirrored.reachedAlone.next (.change remainder) (by simp)
      refine ⟨next, nextAlone, ?_, ?_⟩
      · rw [both, run, List.foldl_cons, List.foldl_nil, Cache.next_change, Cache.next_change]
        exact mirrored.agree.change remainder
      · intro ticket kept
        rw [run, List.foldl_cons, List.foldl_nil, Cache.next_change, Cache.next_change]
        change ticket ∈ (Surroundings.apply _ _).started ↔
          ticket ∈ (Surroundings.apply _ _).started
        rw [started, started]
        exact mirrored.started ticket kept
  | none =>
      obtain ⟨connection, state, rfl, unkept⟩ := eq_report_of_only?_eq_none left
      rw [Event.only?, left, Option.map_none, Option.toList_none, Cache.next_change]
      apply mirrored.elsewhere
      · rw [started]
        exact List.Subset.refl _
      · intro ticket kept known
        rwa [started] at known
      · rw [Surroundings.apply]
        split
        · exact .report_beside unkept turn state
        · exact .refl _ turn

/-- An event happens, and what is left of it happens in the other turn. -/
theorem next
    (mirrored : Mirrored cache span endpoint now turn alone)
    (event : Event)
    (belongs : ∀ lookup, event = .start lookup →
      lookup.ticket ∉ turn.surroundings.started →
        span lookup.ticket = some ⟨cache.family.resolve lookup.address, now⟩) :
    Mirrored cache span endpoint (now + clears [event]) (cache.next turn event)
      (cache.run alone (event.only? (belongsTo span endpoint) endpoint).toList) := by
  have named : ∀ ticket, event.ticket? = some ticket →
      Mirrored cache span endpoint (now + clears [event]) (cache.next turn event)
        (cache.run alone (event.only? (belongsTo span endpoint) endpoint).toList) := by
    intro ticket named
    rw [Event.only?_of_named named, clears_eq_zero_of_named named]
    cases kept : belongsTo span endpoint ticket with
    | true => exact mirrored.next_of_kept belongs named kept
    | false => exact mirrored.next_beside belongs named kept
  cases event with
  | start lookup => exact named lookup.ticket rfl
  | poll ticket => exact named ticket rfl
  | drop ticket => exact named ticket rfl
  | clear => exact mirrored.next_clear
  | change change => exact mirrored.next_change change

/-- All is alike for the lookups of the endpoint. -/
theorem alike
    (mirrored : Mirrored cache span endpoint now turn alone) :
    cache.Alike (belongsTo span endpoint) endpoint turn alone := by
  have agree := mirrored.agree
  have effects : alone.effects.filter (·.isOf (belongsTo span endpoint)) =
      turn.effects.filter (·.isOf (belongsTo span endpoint)) := agree.effects
  constructor
  case effects => exact effects
  case deeds =>
    rw [mirrored.reachedAlone.filter_isDeedAt, mirrored.reached.filter_isDeedAt, effects]
  case contains =>
    rintro address rfl
    have same := mirrored.find?_places
    rw [contains, contains, CacheState.holds, CacheState.holds, same]
    cases placed : turn.state.places.find? (cache.family.resolve address) with
    | none => rfl
    | some number =>
        have kept := belongsTo_of_eq_some
          (mirrored.reached.charted.places_span _ number placed)
        rw [Option.any_some, Option.any_some, agree.slots number kept]
        rfl
  case inFlight =>
    have restrict : ∀ state : CacheState,
        state.inFlight.filter (belongsTo span endpoint) =
          (state.flights.filter (belongsTo span endpoint ·.ticket)).map (·.ticket) :=
      fun state => List.filter_map
    rw [restrict, restrict, agree.flights]
    rfl
  case states =>
    intro connection kept
    exact agree.stateOf_eq kept

end Mirrored

/-- A first part of a history, and what is left of it for an endpoint, lead to turns that are
in step. -/
theorem mirrored_after
    (cache : Cache)
    (surroundings : Surroundings)
    (past future : List Event)
    (endpoint : String) :
    Mirrored cache (cache.span? (past ++ future)) endpoint (clears past)
      (cache.after surroundings past)
      (cache.aloneAfter surroundings (past ++ future) past endpoint) := by
  induction past using List.reverseRecOn generalizing future with
  | nil =>
      exact ⟨.fresh surroundings, .fresh _, .refl _ _, fun _ _ => Iff.rfl⟩
  | append_singleton past event inductionHypothesis =>
      have before := (inductionHypothesis (event :: future)).next event
        (cache.span?_of_start surroundings past future event)
      rw [belongsTo_span?, aloneAfter, ← after_append] at before
      rw [after_concat, clears_append, aloneAfter, List.append_assoc, only,
        List.filterMap_append]
      cases left : event.only? (cache.isFor (past ++ event :: future) endpoint) endpoint with
      | none =>
          rw [left] at before
          rw [List.singleton_append, List.filterMap_cons_none left]
          exact before
      | some remainder =>
          rw [left] at before
          rw [List.singleton_append, List.filterMap_cons_some left]
          exact before

/-- A lookup waits only for lookups of its own endpoint. -/
theorem Reached.exists_owner
    (reached : Reached cache span now turn)
    {flight : Flight}
    (member : flight ∈ turn.state.flights) :
    ∃ owner ∈ turn.state.flights,
      (turn.state.slotAt flight.slot).lock.owner? = some owner.ticket ∧
        cache.family.resolve owner.lookup.address =
          cache.family.resolve flight.lookup.address := by
  have queued := reached.queued
  have taken := queued.isTaken_of_mem member
  obtain ⟨ticket, owned⟩ := Option.isSome_iff_exists.mp taken
  have waits : ticket ∈ turn.state.queueOf flight.slot := by
    rw [← queued.queue, Lock.queue, owned]
    exact List.mem_cons_self
  obtain ⟨owner, ownerMember, slot, rfl⟩ := CacheState.mem_queueOf.mp waits
  refine ⟨owner, ownerMember, owned, ?_⟩
  obtain ⟨epoch, -, home⟩ := reached.charted.flights_span flight member
  obtain ⟨otherEpoch, -, ownerHome⟩ := reached.charted.flights_span owner ownerMember
  rw [slot, home, Option.some.injEq, LookupSpan.mk.injEq] at ownerHome
  rw [← reached.endpoint_eq owner ownerMember, ← reached.endpoint_eq flight member]
  exact ownerHome.1.symm

/-- In every history the lookups of an endpoint have nothing to do with the others. -/
theorem isolated_after
    (cache : Cache)
    (surroundings : Surroundings)
    (events : List Event)
    (endpoint : String) :
    cache.Isolated surroundings events endpoint := by
  have alike : ∀ past future, events = past ++ future →
      cache.Alike (cache.isFor events endpoint) endpoint (cache.after surroundings past)
        (cache.aloneAfter surroundings events past endpoint) := by
    rintro past future rfl
    have mirrored := cache.mirrored_after surroundings past future endpoint
    have all := mirrored.alike
    rwa [belongsTo_span?] at all
  refine ⟨?_, alike, ?_⟩
  · rintro past event future ticket split named kept turn alone rfl rfl
    have before := alike past (event :: future) split
    have after := alike (past ++ [event]) future (by rw [split, List.append_assoc]; rfl)
    have isLeft : event.only? (cache.isFor events endpoint) endpoint = some event := by
      rw [Event.only?_of_named named, if_pos kept]
    have stays : only (cache.isFor events endpoint) endpoint (past ++ [event]) =
        only (cache.isFor events endpoint) endpoint past ++ [event] := by
      rw [only, List.filterMap_append, List.filterMap_cons_some isLeft, List.filterMap_nil]
      rfl
    have effects := after.effects
    rw [aloneAfter, stays, after_concat, after_concat, effects_next, effects_next,
      List.filter_append, List.filter_append, ← aloneAfter, before.effects] at effects
    exact List.append_cancel_left effects
  · rintro past future rfl flight member
    exact (cache.reached_after surroundings past future).exists_owner member

end Cache
end Switchboard
