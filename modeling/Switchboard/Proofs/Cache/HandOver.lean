import Switchboard.Proofs.Cache.Lookups
import Switchboard.Proofs.Cache.Service

/-!
# Hand-over

The lock of a slot passes from lookup to lookup in the order of their starts: the lookup
that was started first owns it, and the others wait.  A lookup that owns the lock ends when
it is polled, unless its dial stays open.  Hence one pass ends all lookups under way.
-/

namespace Switchboard

namespace History

/-- A lookup is polled for the first time before another one is. -/
def StartsBefore
    (events : List Event)
    (left right : Ticket) : Prop :=
  ∃ past future, events = past ++ future ∧
    (lookup? past left).isSome ∧ lookup? past right = none

theorem StartsBefore.append
    {events : List Event}
    {left right : Ticket}
    (before : StartsBefore events left right)
    (more : List Event) :
    StartsBefore (events ++ more) left right := by
  obtain ⟨past, future, rfl, known, unknown⟩ := before
  exact ⟨past, future ++ more, List.append_assoc _ _ _, known, unknown⟩

end History

/-- The lookups under way that have a slot, in the order of their starts. -/
def CacheState.lookupsAt
    (state : CacheState)
    (number : Ticket) : List Flight :=
  state.flights.filter (·.slot = number)

namespace CacheState.Queued

variable {state : CacheState} {started : List Ticket}

/-- The lock of a slot has the lookups of the slot in their order. -/
theorem lock_eq
    (queued : state.Queued started)
    {number : Ticket}
    {first : Flight}
    {others : List Flight}
    (lookups : state.lookupsAt number = first :: others) :
    (state.slotAt number).lock = ⟨some first.ticket, others.map (·.ticket)⟩ := by
  have regular := queued.regular number
  have queue : (state.slotAt number).lock.queue =
      first.ticket :: others.map (·.ticket) := by
    rw [queued.queue, queueOf, ← lookupsAt, lookups, List.map_cons]
  have owner : (state.slotAt number).lock.owner? = some first.ticket := by
    rw [regular.owner?_eq_head?, queue, List.head?_cons]
  rw [Lock.queue, owner] at queue
  cases lock : (state.slotAt number).lock with
  | mk owner? waiters =>
      rw [lock] at owner queue
      simp_all

/-- Of the lookups that have a slot only the first one can be dialing. -/
theorem phase_eq_queued_of_lookupsAt
    (queued : state.Queued started)
    {number : Ticket}
    {first : Flight}
    {others : List Flight}
    (lookups : state.lookupsAt number = first :: others) :
    ∀ other ∈ others, other.phase = .queued := by
  intro other behind
  apply Flight.phase_eq_queued
  intro dialing
  have here : other ∈ state.lookupsAt number := by
    rw [lookups]
    exact List.mem_cons_of_mem first behind
  obtain ⟨member, slot⟩ := List.mem_filter.mp here
  have owns := (queued.dialing other member dialing).1
  rw [of_decide_eq_true slot, queued.lock_eq lookups, Option.some.injEq] at owns
  have distinct : ((state.lookupsAt number).map (·.ticket)).Nodup :=
    queued.distinct.sublist (List.filter_sublist.map _)
  rw [lookups, List.map_cons, List.nodup_cons] at distinct
  exact distinct.1 (owns ▸ List.mem_map_of_mem behind)

/-- The first lookup under way owns the lock of its slot. -/
theorem owner?_of_flights_eq
    (queued : state.Queued started)
    {first : Flight}
    {others : List Flight}
    (flights : state.flights = first :: others) :
    (state.slotAt first.slot).lock.owner? = some first.ticket := by
  have lookups : state.lookupsAt first.slot =
      first :: others.filter (·.slot = first.slot) := by
    simp [lookupsAt, flights]
  rw [queued.lock_eq lookups]

end CacheState.Queued

namespace Cache

open History

/-- The turn after some lookups have been polled one after the other. -/
def afterPolls
    (cache : Cache)
    (turn : Turn)
    (flights : List Flight) : Turn :=
  cache.run turn (flights.map fun flight => .poll flight.ticket)

theorem pass_eq_afterPolls
    (cache : Cache)
    (turn : Turn) :
    cache.pass turn = cache.afterPolls turn turn.state.flights := by
  rw [pass, afterPolls, CacheState.inFlight, List.map_map]
  rfl

/-- How the locks of the slots pass from lookup to lookup. -/
structure HandOver
    (cache : Cache)
    (events : List Event)
    (turn : Turn) : Prop where
  /-- The lookups under way are in the order of their first polls. -/
  ordered : turn.state.flights.Pairwise fun left right =>
    StartsBefore events left.ticket right.ticket
  /-- Of the lookups that have a slot the first one owns the lock, and the others wait for
  it in their order. -/
  owned : ∀ number first others, turn.state.lookupsAt number = first :: others →
    (turn.state.slotAt number).lock = ⟨some first.ticket, others.map (·.ticket)⟩ ∧
      ∀ other ∈ others, other.phase = .queued
  /-- If no dial stays open, a pass ends every lookup under way. -/
  finished : (∀ endpoint config, turn.surroundings.answer endpoint config ≠ .pending) →
    (cache.pass turn).state.flights = []
  /-- If no dial stays open, every lookup under way ends at its own poll in a pass, when
  only those behind it are left. -/
  served : (∀ endpoint config, turn.surroundings.answer endpoint config ≠ .pending) →
    ∀ before flight after, turn.state.flights = before ++ flight :: after →
      ∀ moment, moment = cache.afterPolls turn before →
        moment.state.flights = flight :: after ∧
          ∃ outcome,
            .returned flight.ticket outcome ∈
              (cache.step moment.surroundings moment.state
                (.poll flight.ticket)).effects ∧
            cache.Ends moment.surroundings moment.state flight outcome

variable {cache : Cache} {span : Ticket → Option LookupSpan} {now : Nat} {turn : Turn}

/-! ## The order of the lookups -/

/-- After every history the lookups under way are in the order of their first polls. -/
theorem pairwise_lookups_after
    (cache : Cache)
    (surroundings : Surroundings)
    (events : List Event) :
    (cache.after surroundings events).state.lookups.Pairwise fun left right =>
      StartsBefore events left.ticket right.ticket := by
  induction events using List.reverseRecOn with
  | nil => exact List.Pairwise.nil
  | append_singleton past event inductionHypothesis =>
      have reached := cache.reached_after surroundings past [event]
      have before : (cache.after surroundings past).state.lookups.Pairwise fun left right =>
          StartsBefore (past ++ [event]) left.ticket right.ticket :=
        inductionHypothesis.imp fun earlier => earlier.append [event]
      rw [after_concat]
      rcases reached.lookups_next event (cache.span?_of_start surroundings past [] event)
        with fewer | ⟨last, rfl, new, more⟩
      · exact before.sublist fewer
      · refine List.Pairwise.sublist more ?_
        rw [List.pairwise_append]
        refine ⟨before, List.pairwise_singleton _ _, ?_⟩
        intro lookup member other isLast
        rw [List.mem_singleton] at isLast
        subst isLast
        obtain ⟨flight, flying, rfl⟩ := List.mem_map.mp member
        have known := cache.lookup?_of_mem_flights surroundings past flight flying
        refine ⟨past, _, rfl, Option.isSome_of_eq_some known, ?_⟩
        by_contra unknown
        exact new (mem_started_of_lookup? cache surroundings
          (Option.isSome_iff_ne_none.mpr unknown))

/-! ## Dials that do not stay open -/

section Answered

theorem awaitDial_finishes
    {flight : Flight}
    {config : DialConfig}
    (answered : turn.surroundings.answer flight.endpoint config ≠ .pending) :
    ∃ (before : Turn) (outcome : Outcome),
      awaitDial turn flight config = before.finish flight outcome := by
  cases answer : turn.surroundings.answer flight.endpoint config with
  | pending => exact absurd answer answered
  | failed error => exact ⟨turn, .error error, awaitDial_of_failed answer⟩
  | connected state? =>
      exact ⟨_, .ok flight.ticket, awaitDial_of_connected answer⟩

variable (answered : ∀ endpoint config, turn.surroundings.answer endpoint config ≠ .pending)
include answered

theorem beginDial_finishes
    (cache : Cache)
    (flight : Flight) :
    ∃ (before : Turn) (outcome : Outcome),
      cache.beginDial turn flight = before.finish flight outcome := by
  cases outcome : (cache.prepare turn.surroundings.environment
      flight.lookup.authorizer).outcome with
  | error error => exact ⟨_, .error error, beginDial_of_error outcome⟩
  | ok config =>
      rw [beginDial_of_ok outcome]
      exact awaitDial_finishes (answered flight.endpoint config)

theorem enter_finishes
    (cache : Cache)
    (flight : Flight) :
    ∃ (before : Turn) (outcome : Outcome),
      cache.enter turn flight = before.finish flight outcome := by
  unfold enter
  cases (turn.state.slotAt flight.slot).connection? with
  | none => exact beginDial_finishes answered cache flight
  | some connection =>
      dsimp only
      split
      · exact ⟨_, .ok connection, rfl⟩
      · have emptied : ∀ endpoint config,
            (evict turn flight connection).surroundings.answer endpoint config ≠ .pending :=
          answered
        exact beginDial_finishes emptied cache flight

/-- A lookup that owns the lock of its slot ends when it is polled. -/
theorem advance_finishes
    (cache : Cache)
    {flight : Flight}
    (owns : (turn.state.slotAt flight.slot).lock.owner? = some flight.ticket) :
    ∃ (before : Turn) (outcome : Outcome),
      cache.advance turn flight = before.finish flight outcome := by
  unfold advance
  split
  · exact ⟨turn, _, rfl⟩
  · cases flight.phase with
    | dialing config => exact awaitDial_finishes (answered flight.endpoint config)
    | queued =>
        dsimp only
        exact enter_finishes answered cache flight

/-- When a lookup that owns the lock of its slot has been polled, only the others are
under way. -/
theorem flights_advance
    (cache : Cache)
    {flight : Flight}
    (owns : (turn.state.slotAt flight.slot).lock.owner? = some flight.ticket) :
    (cache.advance turn flight).state.flights = others turn flight := by
  obtain ⟨before, outcome, finishes⟩ := advance_finishes answered cache owns
  have same := others_advance cache turn flight
  rw [finishes, others_finish] at same
  rw [finishes, ← same]
  exact (before.state.departs_leave flight).flights

/-- A lookup that owns the lock of its slot ends at its poll. -/
theorem exists_returned_of_poll
    (queued : turn.state.Queued turn.surroundings.started)
    {flight : Flight}
    (member : flight ∈ turn.state.flights)
    (owns : (turn.state.slotAt flight.slot).lock.owner? = some flight.ticket) :
    ∃ outcome,
      .returned flight.ticket outcome ∈
        (cache.step turn.surroundings turn.state (.poll flight.ticket)).effects ∧
      cache.Ends turn.surroundings turn.state flight outcome := by
  let idle : Turn := ⟨turn.surroundings, turn.state, []⟩
  have polled : cache.step turn.surroundings turn.state (.poll flight.ticket) =
      cache.advance idle flight := by
    rw [step, poll, CacheState.flight?_ticket queued.distinct member]
  have idleAnswered : ∀ endpoint config,
      idle.surroundings.answer endpoint config ≠ .pending := answered
  obtain ⟨before, outcome, finishes⟩ := advance_finishes idleAnswered cache owns
  have returned : .returned flight.ticket outcome ∈ (cache.advance idle flight).effects := by
    rw [finishes]
    exact mem_effects_finish.mpr (Or.inr rfl)
  rw [polled]
  refine ⟨outcome, returned, ?_⟩
  rcases grounds_advance returned with old | ⟨-, ends⟩
  · exact absurd old List.not_mem_nil
  · exact ends

/-- When the lookups in front have been polled, those behind them are left. -/
theorem Reached.afterPolls
    {before after : List Flight}
    (reached : Reached cache span now turn)
    (flights : turn.state.flights = before ++ after) :
    Reached cache span now (cache.afterPolls turn before) ∧
      (cache.afterPolls turn before).state.flights = after ∧
      (cache.afterPolls turn before).surroundings.answer = turn.surroundings.answer := by
  induction before generalizing turn with
  | nil => exact ⟨reached, flights, rfl⟩
  | cons first others inductionHypothesis =>
      have queued := reached.queued
      have owns := queued.owner?_of_flights_eq flights
      have member : first ∈ turn.state.flights := by
        rw [flights]
        exact List.mem_append_left _ List.mem_cons_self
      have polled : cache.next turn (.poll first.ticket) = cache.advance turn first :=
        next_poll_of_some (CacheState.flight?_ticket queued.distinct member)
      have left : (cache.advance turn first).state.flights = others ++ after := by
        have distinct := queued.distinct
        rw [CacheState.inFlight, flights, List.cons_append, List.map_cons,
          List.nodup_cons] at distinct
        rw [flights_advance answered cache owns, Cache.others, flights, List.cons_append,
          List.filter_cons_of_neg (by simp), List.filter_eq_self]
        intro other behind
        rw [decide_eq_true_eq]
        intro same
        exact distinct.1 (same ▸ List.mem_map_of_mem behind)
      obtain ⟨states, unchanged⟩ := cache.surroundings_advance member
      have stillAnswered : ∀ endpoint config,
          (cache.advance turn first).surroundings.answer endpoint config ≠ .pending := by
        rw [unchanged]
        exact answered
      have rest := inductionHypothesis stillAnswered
        (reached.acts (advance_acts member)) left
      have same : cache.afterPolls turn (first :: others) =
          cache.afterPolls (cache.advance turn first) others := by
        rw [← polled]
        rfl
      rw [same]
      refine ⟨rest.1, rest.2.1, rest.2.2.trans ?_⟩
      rw [unchanged]

end Answered

/-- After every history the locks pass from lookup to lookup in the order of their
starts. -/
theorem handOver_after
    (cache : Cache)
    (surroundings : Surroundings)
    (events : List Event) :
    cache.HandOver events (cache.after surroundings events) where
  ordered := by
    have ordered := cache.pairwise_lookups_after surroundings events
    rw [CacheState.lookups, List.pairwise_map] at ordered
    exact ordered
  owned number first others lookups := by
    have queued := (cache.reached_end surroundings events).queued
    exact ⟨queued.lock_eq lookups, queued.phase_eq_queued_of_lookupsAt lookups⟩
  finished answered := by
    have reached := cache.reached_end surroundings events
    have all : (cache.after surroundings events).state.flights =
        (cache.after surroundings events).state.flights ++ [] := (List.append_nil _).symm
    rw [pass_eq_afterPolls]
    exact (reached.afterPolls answered all).2.1
  served := by
    have reached := cache.reached_end surroundings events
    rintro answered before flight after flights moment rfl
    obtain ⟨momentReached, left, answers⟩ := reached.afterPolls answered flights
    have momentQueued := momentReached.queued
    refine ⟨left, exists_returned_of_poll ?_ momentQueued ?_ ?_⟩
    · rw [answers]
      exact answered
    · rw [left]
      exact List.mem_cons_self
    · exact momentQueued.owner?_of_flights_eq left

/-- When the owner of a lock is dropped the lock passes on, and so it does when the next
one is dropped before it has been polled. -/
example :
    let cache := Cache.ofFamily .agent (.ofFlag true)
    let surroundings := { Surroundings.initial with answer := fun _ _ => .pending }
    let lookup := fun ticket => Lookup.mk ticket "agent:1" .insecure none
    let turn := cache.after surroundings
      [.start (lookup 1), .start (lookup 2), .start (lookup 3), .drop 1, .drop 2]
    (turn.state.slotAt 1).lock = ⟨some 3, []⟩ := by
  decide

end Cache
end Switchboard
