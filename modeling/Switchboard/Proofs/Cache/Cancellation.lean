import Switchboard.Proofs.Cache.Endings
import Switchboard.Proofs.Cache.Lookups
import Switchboard.Proofs.Cache.Release

/-!
# Cancellation

A token does nothing to a lookup until the lookup is polled after the token has fired.  That
poll is a drop: it leaves the cache as it is left when the same lookup without a token is
dropped, and from then on nobody can tell the two apart.  A lookup whose token has fired
before its first poll touches nothing.
-/

namespace Switchboard

/-- The turn in which certain numbers count as given. -/
def Turn.counting
    (turn : Turn)
    (started : List Ticket) : Turn :=
  { turn with surroundings := { turn.surroundings with started } }

namespace Cache

open History

/-- After a history a lookup is started with a new number and some events follow, and at none
of the lookup's polls its token has fired. -/
structure IsSpared
    (cache : Cache)
    (surroundings : Surroundings)
    (past : List Event)
    (lookup : Lookup)
    (events : List Event) : Prop where
  /-- The number has not been given before. -/
  new : lookup.ticket ∉ (cache.after surroundings past).surroundings.started
  /-- The token has not fired at the first poll. -/
  unfired :
    (cache.after surroundings past).surroundings.hasFired lookup.token? = false
  /-- The token has not fired at any other poll. -/
  polls : ∀ earlier later, events = earlier ++ .poll lookup.ticket :: later →
    (cache.after surroundings
      (past ++ .start lookup :: earlier)).surroundings.hasFired lookup.token? = false

/-- A lookup that has been spared so far is under way, and its token has fired. -/
structure AwaitsCancellation
    (cache : Cache)
    (surroundings : Surroundings)
    (past : List Event)
    (lookup : Lookup)
    (events : List Event) : Prop
    extends cache.IsSpared surroundings past lookup events where
  flies : lookup.ticket ∈
    (cache.after surroundings (past ++ .start lookup :: events)).state.inFlight
  fired : (cache.after surroundings
    (past ++ .start lookup :: events)).surroundings.hasFired lookup.token? = true

/-- The end of a lookup that has been cancelled. -/
def cancellation
    (cache : Cache)
    (lookup : Lookup) : Effect :=
  .returned lookup.ticket (.error (.cancelled (cache.family.resolve lookup.address)))

/-- What the token of a lookup does that is started after a history. -/
structure Cancellation
    (cache : Cache)
    (surroundings : Surroundings)
    (past : List Event)
    (lookup : Lookup) : Prop where
  /-- As long as the token has not fired at a poll, all is as it is without the token. -/
  alike : ∀ events, cache.IsSpared surroundings past lookup events →
    cache.after surroundings (past ++ .start lookup.plain :: events) =
      (cache.after surroundings (past ++ .start lookup :: events)).release lookup.ticket
  /-- At the first poll after the token has fired the lookup is cancelled, and all else is as
  if it had been dropped. -/
  cancelled : ∀ events, cache.AwaitsCancellation surroundings past lookup events →
    cache.after surroundings (past ++ .start lookup :: (events ++ [.poll lookup.ticket])) =
      (cache.after surroundings
        (past ++ .start lookup.plain :: (events ++ [.drop lookup.ticket]))).record
          [cache.cancellation lookup]
  /-- Whatever happens then, all goes on as if the lookup had been dropped. -/
  followed : ∀ events future, cache.AwaitsCancellation surroundings past lookup events →
    ∃ onward : Turn,
      cache.after surroundings
          (past ++ .start lookup.plain :: (events ++ .drop lookup.ticket :: future)) =
        onward.prepend
          (cache.after surroundings (past ++ .start lookup :: events)).effects ∧
      cache.after surroundings
          (past ++ .start lookup :: (events ++ .poll lookup.ticket :: future)) =
        onward.prepend
          ((cache.after surroundings (past ++ .start lookup :: events)).effects ++
            [cache.cancellation lookup])
  /-- If the token has fired before the first poll, the lookup is cancelled then and nothing
  else is done. -/
  declined : lookup.ticket ∉ (cache.after surroundings past).surroundings.started →
    (cache.after surroundings past).surroundings.hasFired lookup.token? = true →
      cache.after surroundings (past ++ [.start lookup]) =
        { cache.after surroundings past with
          surroundings :=
            (cache.after surroundings past).surroundings.register lookup.ticket
          effects := (cache.after surroundings past).effects ++
            [cache.cancellation lookup] }
  /-- Whatever happens then under other numbers, all goes on as if the lookup had not been
  started. -/
  untouched : lookup.ticket ∉ (cache.after surroundings past).surroundings.started →
    (cache.after surroundings past).surroundings.hasFired lookup.token? = true →
      ∀ future, (∀ other, .start other ∈ future → other.ticket ≠ lookup.ticket) →
        ∃ (onward : Turn) (started : List Ticket),
          cache.after surroundings (past ++ future) =
            onward.prepend (cache.after surroundings past).effects ∧
          cache.after surroundings (past ++ .start lookup :: future) =
            (onward.counting started).prepend
              ((cache.after surroundings past).effects ++ [cache.cancellation lookup])
  /-- Nothing that a lookup has dialed is kept or handed out if the lookup has been
  cancelled. -/
  uncached : ∀ events, ∀ turn,
    turn = cache.after surroundings (past ++ .start lookup :: events) →
      cache.cancellation lookup ∈ turn.effects →
        (∀ number, (turn.state.slotAt number).connection? ≠ some lookup.ticket) ∧
          ∀ receiver, .returned receiver (.ok lookup.ticket) ∉ turn.effects

/-! ## What has been done does not matter -/

theorem next_prepend
    (cache : Cache)
    (turn : Turn)
    (effects : List Effect)
    (event : Event) :
    cache.next (turn.prepend effects) event =
      (cache.next turn event).prepend effects := by
  simp only [next_eq_prepend, Turn.prepend, List.append_assoc]

theorem run_prepend
    (cache : Cache)
    (turn : Turn)
    (effects : List Effect)
    (events : List Event) :
    cache.run (turn.prepend effects) events =
      (cache.run turn events).prepend effects := by
  induction events generalizing turn with
  | nil => rfl
  | cons event rest inductionHypothesis =>
      change cache.run (cache.next (turn.prepend effects) event) rest = _
      rw [next_prepend, inductionHypothesis]
      rfl

/-! ## Spared lookups -/

section Spared

variable {cache : Cache} {surroundings : Surroundings} {past events : List Event}
  {lookup : Lookup}

namespace IsSpared

/-- A lookup that is spared is known under its number. -/
theorem lookup?_eq
    (spared : cache.IsSpared surroundings past lookup events) :
    lookup? (past ++ .start lookup :: events) lookup.ticket = some lookup := by
  have unknown : lookup? past lookup.ticket = none := by
    by_contra known
    exact spared.new (mem_started_of_lookup? cache surroundings
      (Option.isSome_iff_ne_none.mpr known))
  rw [lookup?_append, unknown, Option.none_or, lookup?, List.findSome?_cons,
    Event.startOf?, if_pos rfl]

/-- A lookup under way with the number of a spared lookup is that lookup. -/
theorem lookup_eq
    (spared : cache.IsSpared surroundings past lookup events)
    {flight : Flight}
    (member : flight ∈
      (cache.after surroundings (past ++ .start lookup :: events)).state.flights)
    (named : flight.ticket = lookup.ticket) :
    flight.lookup = lookup := by
  have known := cache.lookup?_of_mem_flights surroundings _ flight member
  rw [named, spared.lookup?_eq, Option.some.injEq] at known
  exact known.symm

theorem of_append
    {more : List Event}
    (spared : cache.IsSpared surroundings past lookup (events ++ more)) :
    cache.IsSpared surroundings past lookup events where
  new := spared.new
  unfired := spared.unfired
  polls := by
    rintro earlier later rfl
    exact spared.polls earlier (later ++ more) (by simp)

/-- Everything is the same without the token of a spared lookup. -/
theorem after_plain
    (spared : cache.IsSpared surroundings past lookup events) :
    cache.after surroundings (past ++ .start lookup.plain :: events) =
      (cache.after surroundings (past ++ .start lookup :: events)).release
        lookup.ticket := by
  induction events using List.reverseRecOn with
  | nil =>
      have reached := cache.reached_end surroundings past
      have starts := cache.next_start_release lookup.ticket spared.new
        fun _ => spared.unfired
      have landed : lookup.ticket ∉ (cache.after surroundings past).state.inFlight := by
        intro flies
        obtain ⟨flight, member, same⟩ := List.mem_map.mp flies
        exact spared.new (same ▸ (reached.queued.flights_started flight member).1)
      rw [after_concat, after_concat, ← starts, Lookup.release_self, Turn.release,
        CacheState.release_of_notMem landed]
  | append_singleton events event inductionHypothesis =>
      have before := inductionHypothesis spared.of_append
      rw [← List.cons_append, ← List.append_assoc, after_concat, before,
        ← List.cons_append, ← List.append_assoc, after_concat]
      apply next_release
      · exact mem_started_of_lookup? cache surroundings
          (Option.isSome_of_eq_some spared.of_append.lookup?_eq)
      · rintro rfl flight member named
        rw [spared.of_append.lookup_eq member named]
        exact spared.polls events [] rfl

end IsSpared

theorem effects_next_drop
    (cache : Cache)
    (turn : Turn)
    (ticket : Ticket) :
    (cache.next turn (.drop ticket)).effects = turn.effects := by
  cases found : turn.state.flight? ticket with
  | none => rw [next_drop_of_none found]
  | some flight => rw [next_drop_of_some found]

/-- The poll that cancels a lookup is a drop. -/
theorem AwaitsCancellation.next_poll
    (awaits : cache.AwaitsCancellation surroundings past lookup events) :
    cache.next (cache.after surroundings (past ++ .start lookup :: events))
        (.poll lookup.ticket) =
      (cache.next (cache.after surroundings (past ++ .start lookup.plain :: events))
        (.drop lookup.ticket)).record [cache.cancellation lookup] := by
  have reached := cache.reached_end surroundings (past ++ .start lookup :: events)
  rw [awaits.after_plain]
  have fired := awaits.fired
  obtain ⟨flight, member, named⟩ := List.mem_map.mp awaits.flies
  have same := awaits.lookup_eq member named
  have endpoint := reached.endpoint_eq flight member
  have found := CacheState.flight?_ticket reached.queued.distinct member
  generalize cache.after surroundings (past ++ .start lookup :: events) = turn at *
  rw [named] at found
  rw [same] at endpoint
  have double : (turn.release lookup.ticket).state.flight? lookup.ticket =
      some (flight.release lookup.ticket) := by
    change (turn.state.release lookup.ticket).flight? lookup.ticket = _
    rw [CacheState.flight?_release, found, Option.map_some]
  have landed : lookup.ticket ∉ (turn.state.leave flight).inFlight := by
    rw [(turn.state.departs_leave flight).inFlight, named]
    simp
  have left : (turn.release lookup.ticket).state.leave (flight.release lookup.ticket) =
      turn.state.leave flight := by
    change (turn.state.release lookup.ticket).leave _ = _
    rw [CacheState.leave_release, CacheState.release_of_notMem landed]
  rw [next_poll_of_some found, next_drop_of_some double, left, advance, same,
    if_pos fired, Turn.finish, endpoint, named]
  rfl

end Spared

/-! ## Declined lookups -/

/-- Two turns differ at most in whether a number has been given. -/
def AlikeBut
    (ticket : Ticket)
    (turn other : Turn) : Prop :=
  ∃ started, other = turn.counting started ∧
    ∀ number ≠ ticket, number ∈ started ↔ number ∈ turn.surroundings.started

/-- No poll sees which numbers have been given. -/
theorem parallel_alikeBut
    (ticket : Ticket)
    (flight : Flight) :
    Parallel (AlikeBut ticket) flight flight where
  ticket := rfl
  endpoint := rfl
  slot := rfl
  authorizer := rfl
  environment := by
    rintro turn other ⟨started, rfl, -⟩
    rfl
  answer := by
    rintro turn other ⟨started, rfl, -⟩
    rfl
  slotAt := by
    rintro turn other ⟨started, rfl, -⟩
    rfl
  stateOf := by
    rintro turn other connection ⟨started, rfl, -⟩ held
    rfl
  record := by
    rintro turn other ⟨started, rfl, same⟩ effects own
    exact ⟨started, rfl, same⟩
  report := by
    rintro turn other ⟨started, rfl, same⟩ connection state own
    exact ⟨started, rfl, same⟩
  fill := by
    rintro turn other ⟨started, rfl, same⟩ connection? own
    exact ⟨started, rfl, same⟩
  markDialing := by
    rintro turn other ⟨started, rfl, same⟩ config
    exact ⟨started, rfl, same⟩
  leave := by
    rintro turn other ⟨started, rfl, same⟩
    exact ⟨started, rfl, same⟩

variable {turn other : Turn}

theorem AlikeBut.advance
    {ticket : Ticket}
    (alike : AlikeBut ticket turn other)
    (cache : Cache)
    (flight : Flight) :
    AlikeBut ticket (cache.advance turn flight) (cache.advance other flight) := by
  apply (parallel_alikeBut ticket flight).advance alike cache rfl
  obtain ⟨started, rfl, -⟩ := alike
  rfl

/-- No change of the surroundings has to do with the numbers that have been given. -/
theorem apply_counting
    (surroundings : Surroundings)
    (started : List Ticket)
    (change : Change) :
    { surroundings with started }.apply change =
        { surroundings.apply change with started } ∧
      (surroundings.apply change).started = surroundings.started := by
  cases change with
  | report connection state =>
      by_cases dialed : (surroundings.states.find? connection).isSome = true
      · simp [Surroundings.apply, Surroundings.report, dialed]
      · simp [Surroundings.apply, dialed]
  | fire token => exact ⟨rfl, rfl⟩
  | answers answer => exact ⟨rfl, rfl⟩
  | environment environment => exact ⟨rfl, rfl⟩

theorem AlikeBut.register
    {ticket : Ticket}
    {started : List Ticket}
    (same : ∀ number ≠ ticket, number ∈ started ↔ number ∈ turn.surroundings.started)
    (newer : Ticket) :
    ∀ number ≠ ticket, number ∈ started ++ [newer] ↔
      number ∈ (turn.surroundings.register newer).started := by
  intro number different
  rw [Surroundings.register, List.mem_append, List.mem_append, same number different]

/-- An event under another number does the same. -/
theorem AlikeBut.next
    {ticket : Ticket}
    (alike : AlikeBut ticket turn other)
    (cache : Cache)
    (event : Event)
    (elsewhere : ∀ lookup, event = .start lookup → lookup.ticket ≠ ticket) :
    AlikeBut ticket (cache.next turn event) (cache.next other event) := by
  obtain ⟨started, rfl, same⟩ := alike
  have flight?_eq : ∀ number, (turn.counting started).state.flight? number =
      turn.state.flight? number := fun _ => rfl
  have hasFired_eq : ∀ token?, (turn.counting started).surroundings.hasFired token? =
      turn.surroundings.hasFired token? := fun _ => rfl
  cases event with
  | start lookup =>
      have known_iff := same lookup.ticket (elsewhere lookup rfl)
      by_cases known : lookup.ticket ∈ turn.surroundings.started
      · have given : lookup.ticket ∈ (turn.counting started).surroundings.started :=
          known_iff.mpr known
        rw [next_start_of_mem known, next_start_of_mem given]
        exact ⟨started, rfl, same⟩
      · have new : lookup.ticket ∉ (turn.counting started).surroundings.started :=
          mt known_iff.mp known
        have registered := register same lookup.ticket
        cases fired : turn.surroundings.hasFired lookup.token? with
        | true =>
            rw [← hasFired_eq] at fired
            rw [next_start_of_fired known fired, next_start_of_fired new fired]
            exact ⟨started ++ [lookup.ticket], rfl, registered⟩
        | false =>
            have unfired := fired
            rw [← hasFired_eq] at unfired
            rw [next_start_of_unfired known fired, next_start_of_unfired new unfired]
            exact advance ⟨started ++ [lookup.ticket], rfl, registered⟩ cache _
  | poll number =>
      cases found : turn.state.flight? number with
      | none =>
          rw [next_poll_of_none found, next_poll_of_none ((flight?_eq number).trans found)]
          exact ⟨started, rfl, same⟩
      | some flight =>
          rw [next_poll_of_some found, next_poll_of_some ((flight?_eq number).trans found)]
          exact advance ⟨started, rfl, same⟩ cache flight
  | drop number =>
      cases found : turn.state.flight? number with
      | none =>
          rw [next_drop_of_none found, next_drop_of_none ((flight?_eq number).trans found)]
          exact ⟨started, rfl, same⟩
      | some flight =>
          rw [next_drop_of_some found, next_drop_of_some ((flight?_eq number).trans found)]
          exact ⟨started, rfl, same⟩
  | clear => exact ⟨started, rfl, same⟩
  | change change =>
      rw [next_change, next_change]
      obtain ⟨applied, unchanged⟩ := apply_counting turn.surroundings started change
      exact ⟨started, congrArg (Turn.mk · _ _) applied, by rwa [unchanged]⟩

/-- Whatever happens under other numbers, it does the same. -/
theorem AlikeBut.run
    {ticket : Ticket}
    (alike : AlikeBut ticket turn other)
    (cache : Cache)
    (events : List Event)
    (elsewhere : ∀ lookup, .start lookup ∈ events → lookup.ticket ≠ ticket) :
    AlikeBut ticket (cache.run turn events) (cache.run other events) := by
  induction events generalizing turn other with
  | nil => exact alike
  | cons event rest inductionHypothesis =>
      apply inductionHypothesis (alike.next cache event ?_)
      · intro lookup member
        exact elsewhere lookup (List.mem_cons_of_mem event member)
      · rintro lookup rfl
        exact elsewhere lookup List.mem_cons_self

/-- After every history the token of a lookup that is started next is nothing but a drop. -/
theorem cancellation_after
    (cache : Cache)
    (surroundings : Surroundings)
    (past : List Event)
    (lookup : Lookup) :
    cache.Cancellation surroundings past lookup where
  alike events spared := spared.after_plain
  cancelled events awaits := by
    have cancelled := awaits.next_poll
    rw [← after_concat, ← after_concat] at cancelled
    simpa using cancelled
  followed events future awaits := by
    have cancelled := awaits.next_poll
    have silent := effects_next_drop cache
      (cache.after surroundings (past ++ .start lookup.plain :: events)) lookup.ticket
    have split : ∀ (lookup : Lookup) (event : Event),
        cache.after surroundings (past ++ .start lookup :: (events ++ event :: future)) =
          cache.run (cache.next
            (cache.after surroundings (past ++ .start lookup :: events)) event) future := by
      intro lookup event
      rw [← after_cons, List.append_assoc, List.cons_append]
    rw [split, split, cancelled]
    have before : (cache.after surroundings (past ++ .start lookup :: events)).effects =
        (cache.after surroundings (past ++ .start lookup.plain :: events)).effects := by
      rw [awaits.after_plain, Turn.release]
    rw [before, ← silent]
    generalize cache.next (cache.after surroundings (past ++ .start lookup.plain :: events))
      (.drop lookup.ticket) = dropped
    refine ⟨cache.run ⟨dropped.surroundings, dropped.state, []⟩ future, ?_, ?_⟩
    · rw [← run_prepend, Turn.prepend_nil]
    · rw [← run_prepend]
      simp [Turn.prepend, Turn.record]
  declined new fired := by
    rw [after_concat, next_start_of_fired new fired]
    rfl
  untouched new fired future elsewhere := by
    rw [after_append, after_cons, next_start_of_fired new fired]
    generalize cache.after surroundings past = turn
    have given : ∀ number ≠ lookup.ticket,
        number ∈ turn.surroundings.started ++ [lookup.ticket] ↔
          number ∈ turn.surroundings.started := by
      intro number different
      simp [different]
    have alike : AlikeBut lookup.ticket ⟨turn.surroundings, turn.state, []⟩
        ⟨turn.surroundings.register lookup.ticket, turn.state, []⟩ := ⟨_, rfl, given⟩
    obtain ⟨started, same, -⟩ := alike.run cache future elsewhere
    refine ⟨cache.run ⟨turn.surroundings, turn.state, []⟩ future, started, ?_, ?_⟩
    · rw [← run_prepend, Turn.prepend_nil]
    · rw [← same, ← run_prepend]
      congr 1
      simp [Turn.prepend, Turn.decline, Turn.record, cancellation]
  uncached := by
    rintro events turn rfl cancelled
    have reached := cache.reached_end surroundings (past ++ .start lookup :: events)
    have endings := reached.endings
    have unhanded : ∀ receiver, .returned receiver (.ok lookup.ticket) ∉
        (cache.after surroundings (past ++ .start lookup :: events)).effects := by
      intro receiver handedOut
      have own := endings.dialer receiver lookup.ticket handedOut
      have contrary := endings.once _ _ _ cancelled own
      cases contrary
    refine ⟨?_, unhanded⟩
    intro number held
    exact unhanded _ (reached.keeping.held number lookup.ticket held)

/-- A lookup whose token fires is cancelled even in the poll in which its dial has succeeded,
and leaves nothing behind. -/
example :
    let cache := Cache.ofFamily .agent (.ofFlag true)
    let surroundings := { Surroundings.initial with answer := fun _ _ => .pending }
    let turn := cache.after surroundings
      [.start ⟨1, "agent:1", .insecure, some "stop"⟩,
        .change (.answers fun _ _ => .connected none), .change (.fire "stop"), .poll 1]
    turn.state.flights.length = 0 ∧ turn.state.len = 0 ∧
      (turn.state.slotAt 1).connection? = none := by
  decide

end Cache
end Switchboard
