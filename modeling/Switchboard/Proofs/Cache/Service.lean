import Switchboard.Proofs.Cache.Eviction

/-!
# Service

A lookup is under way until it ends or is dropped.  Where a connection is held that may
always be handed out, one pass over the lookups under way ends all that queue for it:
each is polled after those before it in the queue have left, and so has the lock.
-/

namespace Switchboard
namespace Cache

open History Trace
open Relation (ReflTransGen)

variable {cache : Cache} {span : Ticket → Option LookupSpan} {now : Nat} {turn : Turn}

/-! ## What is done stays done -/

theorem effects_next
    (cache : Cache)
    (turn : Turn)
    (event : Event) :
    (cache.next turn event).effects =
      turn.effects ++ (cache.step turn.surroundings turn.state event).effects := rfl

theorem effects_subset_run
    (cache : Cache)
    (turn : Turn)
    (events : List Event) :
    turn.effects ⊆ (cache.run turn events).effects := by
  induction events generalizing turn with
  | nil => exact List.Subset.refl _
  | cons event rest inductionHypothesis =>
      have first : turn.effects ⊆ (cache.next turn event).effects :=
        List.subset_append_left _ _
      exact List.Subset.trans first (inductionHypothesis (cache.next turn event))

/-- Every effect of a history is done at one of its events. -/
theorem exists_step_of_mem_effects
    {surroundings : Surroundings}
    {events : List Event}
    {effect : Effect}
    (member : effect ∈ (cache.after surroundings events).effects) :
    ∃ past event future, events = past ++ event :: future ∧
      effect ∈ (cache.step (cache.after surroundings past).surroundings
        (cache.after surroundings past).state event).effects := by
  induction events using List.reverseRecOn with
  | nil => exact absurd member List.not_mem_nil
  | append_singleton past event inductionHypothesis =>
      rw [after_concat, effects_next, List.mem_append] at member
      rcases member with earlier | new
      · obtain ⟨before, other, after, rfl, done⟩ := inductionHypothesis earlier
        refine ⟨before, other, after ++ [event], ?_, done⟩
        rw [List.append_assoc, List.cons_append]
      · exact ⟨past, event, [], rfl, new⟩

/-! ## Lookups stay until they end -/

/-- A lookup has ended. -/
def HasEnded
    (effects : List Effect)
    (ticket : Ticket) : Prop :=
  ∃ outcome, .returned ticket outcome ∈ effects

theorem HasEnded.mono
    {effects more : List Effect}
    {ticket : Ticket}
    (ended : HasEnded effects ticket)
    (grown : effects ⊆ more) :
    HasEnded more ticket := by
  obtain ⟨outcome, member⟩ := ended
  exact ⟨outcome, grown member⟩

/-- When a lookup finishes, the others stay under way. -/
theorem mem_inFlight_finish
    {ticket : Ticket}
    (member : ticket ∈ turn.state.inFlight)
    (flight : Flight)
    (outcome : Outcome) :
    ticket ∈ (turn.finish flight outcome).state.inFlight ∨
      HasEnded (turn.finish flight outcome).effects ticket := by
  by_cases same : ticket = flight.ticket
  · subst same
    exact Or.inr ⟨outcome, mem_effects_finish.mpr (Or.inr rfl)⟩
  · left
    change ticket ∈ (turn.state.leave flight).inFlight
    rw [(turn.state.departs_leave flight).inFlight, List.mem_filter]
    exact ⟨member, by simpa using same⟩

theorem Act.effects_subset
    {next : Turn}
    (act : Act cache turn next) :
    turn.effects ⊆ next.effects := by
  cases act with
  | cancel member fired => exact List.subset_append_left _ _
  | reuse member waiting owns held reusable =>
      exact List.Subset.trans (List.subset_append_left _ _) (List.subset_append_left _ _)
  | evict member waiting owns held stale => exact List.subset_append_left _ _
  | refuse member waiting owns empty refused =>
      exact List.Subset.trans (List.subset_append_left _ _) (List.subset_append_left _ _)
  | dial member waiting owns empty prepared =>
      exact List.Subset.trans (List.subset_append_left _ _) (List.subset_append_left _ _)
  | fail member dialing failed => exact List.subset_append_left _ _
  | establish member dialing connected =>
      exact List.Subset.trans (List.subset_append_left _ _) (List.subset_append_left _ _)

/-- A lookup under way stays so at an act, unless the act ends it. -/
theorem Act.mem_inFlight
    {next : Turn}
    {ticket : Ticket}
    (act : Act cache turn next)
    (member : ticket ∈ turn.state.inFlight) :
    ticket ∈ next.state.inFlight ∨ HasEnded next.effects ticket := by
  cases act with
  | cancel _ fired => exact mem_inFlight_finish member _ _
  | @reuse flight connection _ waiting owns held reusable =>
      have noted : ticket ∈ (turn.record [.notice (.reusing flight.endpoint
          (turn.surroundings.stateOf connection))]).state.inFlight := member
      exact mem_inFlight_finish noted flight (.ok connection)
  | evict _ waiting owns held stale => exact Or.inl member
  | @refuse flight error _ waiting owns empty refused =>
      have asked : ticket ∈ (cache.consult turn flight).state.inFlight := member
      exact mem_inFlight_finish asked flight (.error error)
  | @dial flight config _ waiting owns empty prepared =>
      left
      change ticket ∈ (turn.state.markDialing flight config).inFlight
      rw [CacheState.inFlight_markDialing]
      exact member
  | fail _ dialing failed => exact mem_inFlight_finish member _ _
  | @establish flight config state? _ dialing connected =>
      have filled : ticket ∈ (Turn.record
          ⟨state?.elim turn.surroundings (turn.surroundings.report flight.ticket),
            turn.state.fill flight.slot (some flight.ticket), turn.effects⟩
          [.notice (.established flight.endpoint)]).state.inFlight := member
      exact mem_inFlight_finish filled flight (.ok flight.ticket)

theorem mem_inFlight_of_acts
    {next : Turn}
    {ticket : Ticket}
    (acts : ReflTransGen (Act cache) turn next)
    (member : ticket ∈ turn.state.inFlight) :
    ticket ∈ next.state.inFlight ∨ HasEnded next.effects ticket := by
  induction acts with
  | refl => exact Or.inl member
  | tail _ act inductionHypothesis =>
      rcases inductionHypothesis with flying | ended
      · exact act.mem_inFlight flying
      · exact Or.inr (ended.mono act.effects_subset)

/-- A lookup under way stays so at an event, unless it ends or is dropped. -/
theorem mem_inFlight_next
    {event : Event}
    {ticket : Ticket}
    (member : ticket ∈ turn.state.inFlight)
    (undropped : event ≠ .drop ticket) :
    ticket ∈ (cache.next turn event).state.inFlight ∨
      HasEnded (cache.next turn event).effects ticket := by
  cases event with
  | start lookup =>
      by_cases known : lookup.ticket ∈ turn.surroundings.started
      · rw [next_start_of_mem known]
        exact Or.inl member
      · cases fired : turn.surroundings.hasFired lookup.token? with
        | true =>
            rw [next_start_of_fired known fired]
            exact Or.inl member
        | false =>
            rw [next_start_of_unfired known fired]
            have polls : cache.Polls turn (.start lookup) _ _ := .first known fired
            apply mem_inFlight_of_acts (advance_acts polls.mem_flights)
            change ticket ∈ (turn.state.board _ _).1.inFlight
            rw [CacheState.inFlight_board]
            exact List.mem_append_left _ member
  | poll other =>
      cases found : turn.state.flight? other with
      | none =>
          rw [next_poll_of_none found]
          exact Or.inl member
      | some flight =>
          rw [next_poll_of_some found]
          exact mem_inFlight_of_acts (advance_acts (CacheState.flight?_eq_some found).1) member
  | drop other =>
      cases found : turn.state.flight? other with
      | none =>
          rw [next_drop_of_none found]
          exact Or.inl member
      | some flight =>
          obtain ⟨-, rfl⟩ := CacheState.flight?_eq_some found
          left
          rw [next_drop_of_some found]
          change ticket ∈ (turn.state.leave flight).inFlight
          rw [(turn.state.departs_leave flight).inFlight, List.mem_filter]
          refine ⟨member, ?_⟩
          rw [decide_eq_true_eq]
          rintro rfl
          exact undropped rfl
  | clear => exact Or.inl member
  | change change => exact Or.inl member

/-- A lookup that is started is under way afterwards, or has ended. -/
theorem mem_inFlight_next_start
    {lookup : Lookup}
    (new : lookup.ticket ∉ turn.surroundings.started) :
    lookup.ticket ∈ (cache.next turn (.start lookup)).state.inFlight ∨
      HasEnded (cache.next turn (.start lookup)).effects lookup.ticket := by
  cases fired : turn.surroundings.hasFired lookup.token? with
  | true =>
      rw [next_start_of_fired new fired]
      exact Or.inr ⟨_, List.mem_append_right _ List.mem_cons_self⟩
  | false =>
      rw [next_start_of_unfired new fired]
      have polls : cache.Polls turn (.start lookup) _ _ := .first new fired
      apply mem_inFlight_of_acts (advance_acts polls.mem_flights)
      change lookup.ticket ∈ (turn.state.board _ _).1.inFlight
      rw [CacheState.inFlight_board]
      exact List.mem_concat_self

/-- A lookup has been dropped while it was under way. -/
def IsDropped
    (cache : Cache)
    (surroundings : Surroundings)
    (events : List Event)
    (ticket : Ticket) : Prop :=
  ∃ past future, events = past ++ .drop ticket :: future ∧
    ticket ∈ (cache.after surroundings past).state.inFlight

/-- A lookup that a history has started is under way, has ended, or has been dropped. -/
theorem accounted_after
    (cache : Cache)
    (surroundings : Surroundings)
    {events : List Event}
    {ticket : Ticket}
    (known : ticket ∈ (cache.after surroundings events).surroundings.started) :
    ticket ∈ surroundings.started ∨
      ticket ∈ (cache.after surroundings events).state.inFlight ∨
      HasEnded (cache.after surroundings events).effects ticket ∨
      cache.IsDropped surroundings events ticket := by
  induction events using List.reverseRecOn with
  | nil => exact Or.inl known
  | append_singleton past event inductionHypothesis =>
      rw [after_concat] at known ⊢
      by_cases before : ticket ∈ (cache.after surroundings past).surroundings.started
      · rcases inductionHypothesis before with
          given | flying | ended | ⟨earlier, later, rfl, flew⟩
        · exact Or.inl given
        · by_cases drops : event = .drop ticket
          · subst drops
            exact Or.inr (Or.inr (Or.inr ⟨past, [], rfl, flying⟩))
          · rcases mem_inFlight_next flying drops with still | ended
            · exact Or.inr (Or.inl still)
            · exact Or.inr (Or.inr (Or.inl ended))
        · refine Or.inr (Or.inr (Or.inl (ended.mono ?_)))
          exact List.subset_append_left _ _
        · refine Or.inr (Or.inr (Or.inr ⟨earlier, later ++ [event], ?_, flew⟩))
          rw [List.append_assoc, List.cons_append]
      · by_cases starts : ∃ lookup, event = .start lookup
        · obtain ⟨lookup, rfl⟩ := starts
          rw [started_next_start] at known
          split at known
          · exact absurd known before
          · next new =>
              rw [List.mem_append, List.mem_singleton, or_iff_right before] at known
              subst known
              rcases mem_inFlight_next_start new with flying | ended
              · exact Or.inr (Or.inl flying)
              · exact Or.inr (Or.inr (Or.inl ended))
        · rw [not_exists] at starts
          rw [started_next_of_ne_start cache _ starts] at known
          exact absurd known before

/-! ## What a poll leaves to the others -/

/-- The lookups under way other than one. -/
def others
    (turn : Turn)
    (flight : Flight) : List Flight :=
  turn.state.flights.filter (·.ticket ≠ flight.ticket)

theorem others_finish
    (turn : Turn)
    (flight : Flight)
    (outcome : Outcome) :
    others (turn.finish flight outcome) flight = others turn flight := by
  change (turn.state.leave flight).flights.filter _ = _
  rw [(turn.state.departs_leave flight).flights, List.filter_filter]
  simp [others]

theorem others_awaitDial
    (turn : Turn)
    (flight : Flight)
    (config : DialConfig) :
    others (awaitDial turn flight config) flight = others turn flight := by
  cases answer : turn.surroundings.answer flight.endpoint config with
  | pending => rw [awaitDial_of_pending answer]
  | failed error => rw [awaitDial_of_failed answer, others_finish]
  | connected state? =>
      rw [awaitDial_of_connected answer, establish, others_finish]
      rfl

theorem others_dial
    (turn : Turn)
    (flight : Flight)
    (config : DialConfig) :
    others (dial turn flight config) flight = others turn flight := by
  change (turn.state.markDialing flight config).flights.filter _ = _
  rw [CacheState.flights_markDialing, List.filter_map]
  simp only [Function.comp_def, Flight.ticket_whenDialing]
  rw [others]
  nth_rewrite 2 [← List.map_id (turn.state.flights.filter _)]
  apply List.map_congr_left
  intro other member
  apply Flight.whenDialing_of_ne
  simpa using (List.mem_filter.mp member).2

theorem others_beginDial
    (cache : Cache)
    (turn : Turn)
    (flight : Flight) :
    others (cache.beginDial turn flight) flight = others turn flight := by
  cases outcome : (cache.prepare turn.surroundings.environment
      flight.lookup.authorizer).outcome with
  | error error =>
      rw [beginDial_of_error outcome, others_finish]
      rfl
  | ok config =>
      rw [beginDial_of_ok outcome, others_awaitDial, others_dial]
      rfl

/-- A poll of one lookup leaves the others as they are. -/
theorem others_advance
    (cache : Cache)
    (turn : Turn)
    (flight : Flight) :
    others (cache.advance turn flight) flight = others turn flight := by
  unfold advance
  split
  · exact others_finish turn flight _
  · cases flight.phase with
    | dialing config => exact others_awaitDial turn flight config
    | queued =>
        dsimp only
        split
        · unfold enter
          cases (turn.state.slotAt flight.slot).connection? with
          | none => exact others_beginDial cache turn flight
          | some connection =>
              dsimp only
              split
              · rw [others_finish]
                rfl
              · rw [others_beginDial]
                rfl
        · rfl

/-- A poll of a lookup that has another slot leaves a queue as it is. -/
theorem Reached.queueOf_advance
    (reached : Reached cache span now turn)
    {flight other : Flight}
    (member : flight ∈ turn.state.flights)
    (otherMember : other ∈ turn.state.flights)
    (elsewhere : flight.slot ≠ other.slot) :
    (cache.advance turn flight).state.queueOf other.slot =
      turn.state.queueOf other.slot := by
  have charted := reached.charted
  have nextReached : Reached cache span now (cache.advance turn flight) :=
    reached.acts (advance_acts member)
  -- Nobody with the polled lookup's number has the slot, neither before nor after.
  have queue_eq : ∀ after : Turn,
      (∀ present ∈ after.state.flights, present.slot = other.slot →
        present.ticket ≠ flight.ticket) →
      after.state.queueOf other.slot =
        ((others after flight).filter (·.slot = other.slot)).map (·.ticket) := by
    intro after apart
    rw [CacheState.queueOf, others, List.filter_filter]
    congr 1
    apply List.filter_congr
    intro present presentMember
    by_cases here : present.slot = other.slot
    · simp [here, apart present presentMember here]
    · simp [here]
  rw [queue_eq turn, queue_eq (cache.advance turn flight), others_advance]
  · intro present presentMember here same
    have home := nextReached.charted.span_slot presentMember
    rw [here, same, ← charted.span_slot member] at home
    exact elsewhere (charted.unique _ _ (CacheState.isUsed_of_mem member)
      (CacheState.isUsed_of_mem otherMember) home.symm)
  · intro present presentMember here same
    have equal := reached.queued.eq_of_ticket_eq presentMember member same
    exact elsewhere (equal ▸ here)

/-- In a queue that is in the order in which some are to be polled, the first of these has
the lock if it waits at all. -/
theorem owner?_of_order
    {state : CacheState}
    {started rest : List Ticket}
    {number ticket : Ticket}
    (queued : state.Queued started)
    (waits : ticket ∈ state.queueOf number)
    (order : state.queueOf number =
      (ticket :: rest).filter (· ∈ state.queueOf number)) :
    (state.slotAt number).lock.owner? = some ticket := by
  rw [(queued.regular number).owner?_eq_head?, queued.queue, order,
    List.filter_cons_of_pos (by simpa using waits)]
  rfl

/-- When the first of those that are to be polled leaves a queue that is in their order,
the queue is in the order of the rest. -/
theorem filter_ne_of_order
    {queue rest : List Ticket}
    {ticket : Ticket}
    (order : queue = (ticket :: rest).filter (· ∈ queue)) :
    queue.filter (· ≠ ticket) = rest.filter (· ∈ queue.filter (· ≠ ticket)) := by
  calc
    queue.filter (· ≠ ticket) =
        ((ticket :: rest).filter (· ∈ queue)).filter (· ≠ ticket) := by rw [← order]
    _ = (ticket :: rest).filter fun other => other ∈ queue.filter (· ≠ ticket) := by
        rw [List.filter_filter]
        apply List.filter_congr
        intro other _
        simp [and_comm]
    _ = rest.filter fun other => other ∈ queue.filter (· ≠ ticket) := by
        apply List.filter_cons_of_neg
        simp

/-! ## Connections that may always be handed out -/

section Healthy

variable (healthy : cache.policy = .alwaysHealthy)
include healthy

/-- A connection that has been handed out stays in the slot of its span. -/
theorem Reached.held_of_returned
    (reached : Reached cache span now turn)
    {first connection : Ticket}
    (returned : .returned first (.ok connection) ∈ turn.effects)
    {flight : Flight}
    (member : flight ∈ turn.state.flights)
    (home : span flight.ticket = span first) :
    (turn.state.slotAt flight.slot).connection? = some connection := by
  have charted := reached.charted
  rcases reached.keeping.kept first connection returned with closed | ⟨number, held, same⟩
  · exact absurd closed (reached.orderly.not_wasClosed_of_alwaysHealthy healthy connection)
  · have here : number = flight.slot := by
      apply charted.unique _ _ (Or.inl ⟨connection, held⟩) (CacheState.isUsed_of_mem member)
      rw [same, charted.span_slot member, home]
    exact here ▸ held

/-- A lookup that has the lock of a slot with a connection leaves when it is polled, and
gets the connection unless it is cancelled. -/
theorem Reached.advance_of_held
    (reached : Reached cache span now turn)
    {flight : Flight}
    {connection : Ticket}
    (member : flight ∈ turn.state.flights)
    (owns : (turn.state.slotAt flight.slot).lock.owner? = some flight.ticket)
    (held : (turn.state.slotAt flight.slot).connection? = some connection) :
    (cache.advance turn flight).state = turn.state.leave flight ∧
      (turn.surroundings.hasFired flight.lookup.token? = false →
        .returned flight.ticket (.ok connection) ∈
          (cache.advance turn flight).effects) := by
  have waiting := reached.queued.phase_eq_queued_of_held member held
  have reusable : cache.policy.reusable (turn.surroundings.stateOf connection) = true := by
    rw [healthy]
    rfl
  unfold advance
  cases fired : turn.surroundings.hasFired flight.lookup.token? with
  | true =>
      rw [if_pos rfl]
      exact ⟨rfl, fun unfired => Bool.noConfusion unfired⟩
  | false =>
      rw [if_neg Bool.false_ne_true, waiting]
      dsimp only
      rw [if_pos owns, enter, held]
      dsimp only
      rw [if_pos reusable]
      exact ⟨rfl, fun _ => List.mem_append_right _ List.mem_cons_self⟩

/-- Polling the first of those that are still to be polled leaves the queue of a slot in
the order in which the rest is to be polled. -/
theorem Reached.order_advance
    (reached : Reached cache span now turn)
    {flight polled : Flight}
    {connection : Ticket}
    {rest : List Ticket}
    (member : flight ∈ turn.state.flights)
    (polledMember : polled ∈ turn.state.flights)
    (held : (turn.state.slotAt flight.slot).connection? = some connection)
    (order : turn.state.queueOf flight.slot =
      (polled.ticket :: rest).filter (· ∈ turn.state.queueOf flight.slot)) :
    (cache.advance turn polled).state.queueOf flight.slot =
      rest.filter (· ∈ (cache.advance turn polled).state.queueOf flight.slot) := by
  by_cases slot : polled.slot = flight.slot
  · have waits : polled.ticket ∈ turn.state.queueOf flight.slot :=
      CacheState.mem_queueOf.mpr ⟨polled, polledMember, slot, rfl⟩
    have owns : (turn.state.slotAt polled.slot).lock.owner? = some polled.ticket := by
      rw [slot]
      exact owner?_of_order reached.queued waits order
    have left := (reached.advance_of_held healthy polledMember owns (slot ▸ held)).1
    rw [left, (turn.state.departs_leave polled).queueOf]
    exact filter_ne_of_order order
  · have absent : polled.ticket ∉ turn.state.queueOf flight.slot := by
      intro waits
      obtain ⟨other, otherMember, here, same⟩ := CacheState.mem_queueOf.mp waits
      have equal := reached.queued.eq_of_ticket_eq otherMember polledMember same
      exact slot (equal ▸ here)
    rw [List.filter_cons_of_neg (by simpa using absent)] at order
    rw [reached.queueOf_advance polledMember member slot]
    exact order

/-- If the lookups that queue for a slot are polled in the order of the queue, each of
them is served. -/
theorem Reached.served_by_polls
    {first connection : Ticket}
    {flight : Flight}
    (home : span flight.ticket = span first)
    {tickets : List Ticket}
    (reached : Reached cache span now turn)
    (returned : .returned first (.ok connection) ∈ turn.effects)
    (member : flight ∈ turn.state.flights)
    (unfired : turn.surroundings.hasFired flight.lookup.token? = false)
    (order : turn.state.queueOf flight.slot =
      tickets.filter (· ∈ turn.state.queueOf flight.slot)) :
    .returned flight.ticket (.ok connection) ∈
      (cache.run turn (tickets.map .poll)).effects := by
  induction tickets generalizing turn with
  | nil =>
      have waits := CacheState.mem_queueOf.mpr ⟨flight, member, rfl, rfl⟩
      rw [order] at waits
      exact absurd waits List.not_mem_nil
  | cons ticket rest inductionHypothesis =>
      have queued := reached.queued
      have held := reached.held_of_returned healthy returned member home
      change _ ∈ (cache.run (cache.next turn (.poll ticket)) (rest.map .poll)).effects
      cases found : turn.state.flight? ticket with
      | none =>
          rw [next_poll_of_none found]
          apply inductionHypothesis reached returned member unfired
          have absent : ticket ∉ turn.state.queueOf flight.slot := by
            intro waits
            obtain ⟨other, otherMember, -, rfl⟩ := CacheState.mem_queueOf.mp waits
            rw [CacheState.flight?_ticket queued.distinct otherMember] at found
            cases found
          rw [List.filter_cons_of_neg (by simpa using absent)] at order
          exact order
      | some polled =>
          obtain ⟨polledMember, rfl⟩ := CacheState.flight?_eq_some found
          have nextReached := reached.next (.poll polled.ticket) (fun _ => nofun)
          have nextReturned : .returned first (.ok connection) ∈
              (cache.next turn (.poll polled.ticket)).effects :=
            List.mem_append_left _ returned
          rw [next_poll_of_some found] at nextReached nextReturned ⊢
          by_cases same : polled.ticket = flight.ticket
          · have equal := queued.eq_of_ticket_eq polledMember member same
            subst equal
            have waits : polled.ticket ∈ turn.state.queueOf polled.slot :=
              CacheState.mem_queueOf.mpr ⟨polled, member, rfl, rfl⟩
            have owns := owner?_of_order queued waits order
            have served := (reached.advance_of_held healthy member owns held).2 unfired
            exact effects_subset_run cache _ _ served
          · have stays : flight ∈ (cache.advance turn polled).state.flights := by
              have other : flight ∈ others turn polled := by
                simpa [others, member] using Ne.symm same
              rw [← others_advance cache] at other
              exact List.mem_of_mem_filter other
            obtain ⟨states, unchanged⟩ := cache.surroundings_advance polledMember
            apply inductionHypothesis nextReached nextReturned stays
            · rw [unchanged]
              exact unfired
            · exact reached.order_advance healthy member polledMember held order

/-- One pass serves every lookup under way in whose span a connection has been handed
out. -/
theorem Reached.served_by_pass
    (reached : Reached cache span now turn)
    {first connection : Ticket}
    (returned : .returned first (.ok connection) ∈ turn.effects)
    {flight : Flight}
    (member : flight ∈ turn.state.flights)
    (home : span flight.ticket = span first)
    (unfired : turn.surroundings.hasFired flight.lookup.token? = false) :
    .returned flight.ticket (.ok connection) ∈ (cache.pass turn).effects := by
  apply reached.served_by_polls healthy home returned member unfired
  rw [CacheState.inFlight, List.filter_map, CacheState.queueOf]
  congr 1
  apply List.filter_congr
  intro other otherMember
  have waits_iff : other.ticket ∈ turn.state.queueOf flight.slot ↔
      other.slot = flight.slot := by
    rw [CacheState.mem_queueOf]
    constructor
    · rintro ⟨present, presentMember, here, same⟩
      rw [← reached.queued.eq_of_ticket_eq presentMember otherMember same, here]
    · intro here
      exact ⟨other, otherMember, here, rfl⟩
  exact (decide_eq_decide.mpr waits_iff).symm

end Healthy

end Cache
end Switchboard
