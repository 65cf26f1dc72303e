import Mathlib.Data.List.Induction
import Switchboard.Proofs.Cache.Acts
import Switchboard.Proofs.Cache.Places

/-!
# Moments that a cache reaches

The moments of a history are the turns before and after each event and, within a poll,
between any two acts.  What holds at the beginning and is kept by each kind of move holds
at every moment, and so the lookups queue and the slots are found as they should.  The
spans of the lookups are fixed in advance: they are read off the whole history, and a
lookup that boards does so in its span.
-/

namespace Switchboard

/-- The turn in which a lookup has boarded in a span. -/
def Turn.board
    (turn : Turn)
    (lookup : Lookup)
    (endpoint : String) : Turn :=
  ⟨turn.surroundings.register lookup.ticket,
    (turn.state.board lookup endpoint).1,
    turn.effects⟩

/-- The turn in which a lookup has been started and has ended before it touched
anything. -/
def Turn.decline
    (turn : Turn)
    (lookup : Lookup)
    (endpoint : String) : Turn :=
  Turn.record
    ⟨turn.surroundings.register lookup.ticket, turn.state, turn.effects⟩
    [.returned lookup.ticket (.error (.cancelled endpoint))]

namespace Cache

open History
open Relation (ReflTransGen)

/-- The moments that a new cache can reach, with the number of clears so far. -/
inductive Reached
    (cache : Cache)
    (span : Ticket → Option LookupSpan) : Nat → Turn → Prop
  /-- The cache has not been used. -/
  | fresh (surroundings : Surroundings) :
      Reached cache span 0 (.fresh surroundings)
  /-- Something happens elsewhere. -/
  | elsewhere
      {now : Nat}
      {turn : Turn}
      (reached : Reached cache span now turn)
      (surroundings : Surroundings)
      (grown : turn.surroundings.started ⊆ surroundings.started) :
      Reached cache span now { turn with surroundings }
  /-- A lookup whose token has fired is started. -/
  | decline
      {now : Nat}
      {turn : Turn}
      {lookup : Lookup}
      (reached : Reached cache span now turn)
      (new : lookup.ticket ∉ turn.surroundings.started)
      (fired : turn.surroundings.hasFired lookup.token? = true)
      (belongs :
        span lookup.ticket = some ⟨cache.family.resolve lookup.address, now⟩) :
      Reached cache span now
        (turn.decline lookup (cache.family.resolve lookup.address))
  /-- A lookup is started and asks for the lock of its slot. -/
  | board
      {now : Nat}
      {turn : Turn}
      {lookup : Lookup}
      (reached : Reached cache span now turn)
      (new : lookup.ticket ∉ turn.surroundings.started)
      (belongs :
        span lookup.ticket = some ⟨cache.family.resolve lookup.address, now⟩) :
      Reached cache span now
        (turn.board lookup (cache.family.resolve lookup.address))
  /-- A lookup under way acts. -/
  | act
      {now : Nat}
      {turn next : Turn}
      (reached : Reached cache span now turn)
      (act : Act cache turn next) :
      Reached cache span now next
  /-- A lookup under way is dropped. -/
  | drop
      {now : Nat}
      {turn : Turn}
      {flight : Flight}
      (reached : Reached cache span now turn)
      (member : flight ∈ turn.state.flights) :
      Reached cache span now { turn with state := turn.state.leave flight }
  /-- The cache is cleared. -/
  | clear
      {now : Nat}
      {turn : Turn}
      (reached : Reached cache span now turn) :
      Reached cache span (now + 1)
        ((cache.clear turn.surroundings turn.state).prepend turn.effects)

variable {cache : Cache} {span : Ticket → Option LookupSpan} {now : Nat} {turn : Turn}

theorem Reached.acts
    {next : Turn}
    (reached : Reached cache span now turn)
    (acts : ReflTransGen (Act cache) turn next) :
    Reached cache span now next := by
  induction acts with
  | refl => exact reached
  | tail _ act inductionHypothesis => exact .act inductionHypothesis act

/-! ## Events -/

theorem next_eq_prepend
    (cache : Cache)
    (turn : Turn)
    (event : Event) :
    cache.next turn event =
      (cache.step turn.surroundings turn.state event).prepend turn.effects := rfl

theorem next_poll_of_none
    {ticket : Ticket}
    (missing : turn.state.flight? ticket = none) :
    cache.next turn (.poll ticket) = turn := by
  simp only [next_eq_prepend, step, poll, missing]
  exact Turn.prepend_nil turn

theorem next_poll_of_some
    {ticket : Ticket}
    {flight : Flight}
    (found : turn.state.flight? ticket = some flight) :
    cache.next turn (.poll ticket) = cache.advance turn flight := by
  simp only [next_eq_prepend, step, poll, found]
  rw [← advance_prepend, Turn.prepend_nil]

theorem next_drop_of_none
    {ticket : Ticket}
    (missing : turn.state.flight? ticket = none) :
    cache.next turn (.drop ticket) = turn := by
  simp only [next_eq_prepend, step, Cache.drop, missing]
  exact Turn.prepend_nil turn

theorem next_drop_of_some
    {ticket : Ticket}
    {flight : Flight}
    (found : turn.state.flight? ticket = some flight) :
    cache.next turn (.drop ticket) =
      { turn with state := turn.state.leave flight } := by
  simp only [next_eq_prepend, step, Cache.drop, found]
  simp [Turn.prepend]

theorem next_start_of_mem
    {lookup : Lookup}
    (known : lookup.ticket ∈ turn.surroundings.started) :
    cache.next turn (.start lookup) = turn := by
  have contained : turn.surroundings.started.contains lookup.ticket = true := by
    simpa using known
  simp only [next_eq_prepend, step, start, contained, if_true]
  exact Turn.prepend_nil turn

theorem next_start_of_fired
    {lookup : Lookup}
    (new : lookup.ticket ∉ turn.surroundings.started)
    (fired : turn.surroundings.hasFired lookup.token? = true) :
    cache.next turn (.start lookup) =
      turn.decline lookup (cache.family.resolve lookup.address) := by
  have absent : turn.surroundings.started.contains lookup.ticket = false := by
    simpa using new
  simp only [next_eq_prepend, step, start, absent, fired, Bool.false_eq_true,
    if_false, if_true]
  rfl

theorem next_start_of_unfired
    {lookup : Lookup}
    (new : lookup.ticket ∉ turn.surroundings.started)
    (unfired : turn.surroundings.hasFired lookup.token? = false) :
    cache.next turn (.start lookup) =
      cache.advance (turn.board lookup (cache.family.resolve lookup.address))
        (turn.state.board lookup (cache.family.resolve lookup.address)).2 := by
  have absent : turn.surroundings.started.contains lookup.ticket = false := by
    simpa using new
  simp only [next_eq_prepend, step, start, absent, unfired, Bool.false_eq_true,
    if_false]
  rw [← advance_prepend]
  simp [Turn.prepend, Turn.board]

theorem next_clear (cache : Cache) (turn : Turn) :
    cache.next turn .clear =
      (cache.clear turn.surroundings turn.state).prepend turn.effects := rfl

theorem next_change
    (cache : Cache)
    (turn : Turn)
    (change : Change) :
    cache.next turn (.change change) =
      { turn with surroundings := turn.surroundings.apply change } := by
  simp [next_eq_prepend, step, Turn.prepend]

/-! ## Lookups that have been started -/

/-- An act changes nothing around the cache but the states of connections. -/
theorem Act.surroundings_eq
    {next : Turn}
    (act : Act cache turn next) :
    ∃ states, next.surroundings = { turn.surroundings with states } := by
  cases act with
  | cancel member fired => exact ⟨_, rfl⟩
  | reuse member waiting owns held reusable => exact ⟨_, rfl⟩
  | evict member waiting owns held stale => exact ⟨_, rfl⟩
  | refuse member waiting owns empty refused => exact ⟨_, rfl⟩
  | dial member waiting owns empty prepared => exact ⟨_, rfl⟩
  | fail member dialing failed => exact ⟨_, rfl⟩
  | @establish flight config state? member dialing connected =>
      cases state? with
      | none => exact ⟨_, rfl⟩
      | some state => exact ⟨_, rfl⟩

/-- No lookup is started by an act. -/
theorem Act.started_eq
    {next : Turn}
    (act : Act cache turn next) :
    next.surroundings.started = turn.surroundings.started := by
  obtain ⟨states, same⟩ := act.surroundings_eq
  rw [same]

theorem surroundings_eq_of_acts
    {next : Turn}
    (acts : ReflTransGen (Act cache) turn next) :
    ∃ states, next.surroundings = { turn.surroundings with states } := by
  induction acts with
  | refl => exact ⟨_, rfl⟩
  | tail _ act inductionHypothesis =>
      obtain ⟨states, same⟩ := act.surroundings_eq
      obtain ⟨before, unchanged⟩ := inductionHypothesis
      exact ⟨states, by rw [same, unchanged]⟩

/-- A poll changes nothing around the cache but the states of connections. -/
theorem surroundings_advance
    (cache : Cache)
    {flight : Flight}
    (member : flight ∈ turn.state.flights) :
    ∃ states, (cache.advance turn flight).surroundings =
      { turn.surroundings with states } :=
  surroundings_eq_of_acts (advance_acts member)

theorem started_advance
    (cache : Cache)
    {flight : Flight}
    (member : flight ∈ turn.state.flights) :
    (cache.advance turn flight).surroundings.started = turn.surroundings.started := by
  obtain ⟨states, same⟩ := cache.surroundings_advance member
  rw [same]

theorem started_next_start
    (cache : Cache)
    (turn : Turn)
    (lookup : Lookup) :
    (cache.next turn (.start lookup)).surroundings.started =
      if lookup.ticket ∈ turn.surroundings.started then turn.surroundings.started
      else turn.surroundings.started ++ [lookup.ticket] := by
  by_cases known : lookup.ticket ∈ turn.surroundings.started
  · rw [next_start_of_mem known, if_pos known]
  · rw [if_neg known]
    cases fired : turn.surroundings.hasFired lookup.token? with
    | true =>
        rw [next_start_of_fired known fired]
        rfl
    | false =>
        have boarded :
            (turn.state.board lookup (cache.family.resolve lookup.address)).2 ∈
              (turn.board lookup (cache.family.resolve lookup.address)).state.flights :=
          turn.state.mem_flights_board _ _
        rw [next_start_of_unfired known fired, started_advance _ boarded]
        rfl

/-- Only a start starts a lookup. -/
theorem started_next_of_ne_start
    (cache : Cache)
    (turn : Turn)
    {event : Event}
    (other : ∀ lookup, event ≠ .start lookup) :
    (cache.next turn event).surroundings.started = turn.surroundings.started := by
  cases event with
  | start lookup => exact absurd rfl (other lookup)
  | poll ticket =>
      cases found : turn.state.flight? ticket with
      | none => rw [next_poll_of_none found]
      | some flight =>
          rw [next_poll_of_some found,
            started_advance _ (CacheState.flight?_eq_some found).1]
  | drop ticket =>
      cases found : turn.state.flight? ticket with
      | none => rw [next_drop_of_none found]
      | some flight => rw [next_drop_of_some found]
  | clear => rfl
  | change change =>
      rw [next_change]
      cases change with
      | report connection state =>
          simp only [Surroundings.apply]
          split <;> rfl
      | fire token => rfl
      | answers answer => rfl
      | environment environment => rfl

/-- What has been started stays started. -/
theorem started_subset_next
    (cache : Cache)
    (turn : Turn)
    (event : Event) :
    turn.surroundings.started ⊆ (cache.next turn event).surroundings.started := by
  by_cases starts : ∃ lookup, event = .start lookup
  · obtain ⟨lookup, rfl⟩ := starts
    rw [started_next_start]
    split
    · exact List.Subset.refl _
    · exact List.subset_append_left _ _
  · rw [not_exists] at starts
    rw [started_next_of_ne_start cache turn starts]
    exact List.Subset.refl _

/-- Every number under which a history starts a lookup counts as started. -/
theorem mem_started_of_lookup?
    (cache : Cache)
    (surroundings : Surroundings)
    {events : List Event}
    {ticket : Ticket}
    (known : (lookup? events ticket).isSome) :
    ticket ∈ (cache.after surroundings events).surroundings.started := by
  induction events using List.reverseRecOn with
  | nil => simp at known
  | append_singleton past event inductionHypothesis =>
      rw [after_concat]
      rw [lookup?_append, Option.isSome_or, Bool.or_eq_true] at known
      rcases known with before | starts
      · exact started_subset_next _ _ _ (inductionHypothesis before)
      · rw [lookup?_singleton] at starts
        cases event with
        | start lookup =>
            have same : lookup.ticket = ticket := by
              by_contra different
              simp [Event.startOf?, different] at starts
            subst same
            rw [started_next_start]
            split
            · assumption
            · exact List.mem_concat_self
        | poll other => simp [Event.startOf?] at starts
        | drop other => simp [Event.startOf?] at starts
        | clear => simp [Event.startOf?] at starts
        | change change => simp [Event.startOf?] at starts

/-! ## Histories reach their moments -/

theorem Reached.next
    (reached : Reached cache span now turn)
    (event : Event)
    (belongs : ∀ lookup, event = .start lookup →
      lookup.ticket ∉ turn.surroundings.started →
        span lookup.ticket = some ⟨cache.family.resolve lookup.address, now⟩) :
    Reached cache span (now + clears [event]) (cache.next turn event) := by
  cases event with
  | start lookup =>
      change Reached cache span now _
      by_cases known : lookup.ticket ∈ turn.surroundings.started
      · rw [next_start_of_mem known]
        exact reached
      · have inSpan := belongs lookup rfl known
        cases fired : turn.surroundings.hasFired lookup.token? with
        | true =>
            rw [next_start_of_fired known fired]
            exact .decline reached known fired inSpan
        | false =>
            rw [next_start_of_unfired known fired]
            apply (Reached.board reached known inSpan).acts
            exact advance_acts (turn.state.mem_flights_board _ _)
  | poll ticket =>
      change Reached cache span now _
      cases found : turn.state.flight? ticket with
      | none =>
          rw [next_poll_of_none found]
          exact reached
      | some flight =>
          rw [next_poll_of_some found]
          exact reached.acts (advance_acts (CacheState.flight?_eq_some found).1)
  | drop ticket =>
      change Reached cache span now _
      cases found : turn.state.flight? ticket with
      | none =>
          rw [next_drop_of_none found]
          exact reached
      | some flight =>
          rw [next_drop_of_some found]
          exact .drop reached (CacheState.flight?_eq_some found).1
  | clear =>
      rw [next_clear]
      exact .clear reached
  | change change =>
      change Reached cache span now _
      have grown := started_subset_next cache turn (.change change)
      rw [next_change] at grown ⊢
      exact .elsewhere reached _ grown

/-- A lookup that a history starts next belongs to its endpoint in the present epoch. -/
theorem span?_of_start
    (cache : Cache)
    (surroundings : Surroundings)
    (past future : List Event)
    (event : Event) :
    ∀ lookup, event = .start lookup →
      lookup.ticket ∉ (cache.after surroundings past).surroundings.started →
        cache.span? (past ++ event :: future) lookup.ticket =
          some ⟨cache.family.resolve lookup.address, clears past⟩ := by
  rintro lookup rfl new
  apply span?_start
  by_contra known
  exact new (mem_started_of_lookup? cache surroundings
    (Option.isSome_iff_ne_none.mpr known))

/-- Every history reaches its last turn, whatever happens afterwards. -/
theorem reached_after
    (cache : Cache)
    (surroundings : Surroundings)
    (past future : List Event) :
    Reached cache (cache.span? (past ++ future)) (clears past)
      (cache.after surroundings past) := by
  induction past using List.reverseRecOn generalizing future with
  | nil => exact .fresh surroundings
  | append_singleton past event inductionHypothesis =>
      have before := inductionHypothesis (event :: future)
      rw [after_concat, clears_append, List.append_assoc, List.singleton_append]
      exact before.next event (span?_of_start cache surroundings past future event)

/-- Every history reaches its last turn. -/
theorem reached_end
    (cache : Cache)
    (surroundings : Surroundings)
    (events : List Event) :
    Reached cache (cache.span? events) (clears events) (cache.after surroundings events) := by
  have reached := cache.reached_after surroundings events []
  rwa [List.append_nil] at reached

/-! ## What holds at every moment -/

/-- What an act does to the state of the cache: the lookup departs, empties its slot, or
begins to dial. -/
theorem Act.state_cases
    {next : Turn}
    (act : Act cache turn next)
    (queued : turn.state.Queued turn.surroundings.started) :
    ∃ flight ∈ turn.state.flights,
      (∃ kept?, turn.state.Departs flight kept? next.state ∧
        ∀ connection, kept? = some connection →
          (turn.state.slotAt flight.slot).connection? = some connection ∨
            connection = flight.ticket ∧
              (turn.state.slotAt flight.slot).lock.owner? = some flight.ticket) ∨
      next.state = turn.state.fill flight.slot none ∨
      ∃ config, next.state = turn.state.markDialing flight config ∧
        (turn.state.slotAt flight.slot).lock.owner? = some flight.ticket ∧
        (turn.state.slotAt flight.slot).connection? = none := by
  have leaves : ∀ flight : Flight, ∃ kept?,
      turn.state.Departs flight kept? (turn.state.leave flight) ∧
        ∀ connection, kept? = some connection →
          (turn.state.slotAt flight.slot).connection? = some connection ∨
            connection = flight.ticket ∧
              (turn.state.slotAt flight.slot).lock.owner? = some flight.ticket := by
    intro flight
    exact ⟨_, turn.state.departs_leave flight, fun connection kept => Or.inl kept⟩
  cases act with
  | @cancel flight member fired => exact ⟨flight, member, Or.inl (leaves flight)⟩
  | @reuse flight connection member waiting owns held reusable =>
      exact ⟨flight, member, Or.inl (leaves flight)⟩
  | @evict flight connection member waiting owns held stale =>
      exact ⟨flight, member, Or.inr (Or.inl rfl)⟩
  | @refuse flight error member waiting owns empty refused =>
      exact ⟨flight, member, Or.inl (leaves flight)⟩
  | @dial flight config member waiting owns empty prepared =>
      exact ⟨flight, member, Or.inr (Or.inr ⟨config, rfl, owns, empty⟩)⟩
  | @fail flight config error member dialing failed =>
      exact ⟨flight, member, Or.inl (leaves flight)⟩
  | @establish flight config state? member dialing connected =>
      have isDialing := Flight.isDialing_of_phase_eq dialing
      have owns := (queued.dialing flight member isDialing).1
      refine ⟨flight, member, Or.inl ⟨some flight.ticket, ?_, ?_⟩⟩
      · exact turn.state.departs_fill_leave flight _
      · intro connection same
        rw [Option.some.injEq] at same
        exact Or.inr ⟨same.symm, owns⟩

/-- At every moment the lookups under way queue for the locks of their slots. -/
theorem Reached.queued
    (reached : Reached cache span now turn) :
    turn.state.Queued turn.surroundings.started := by
  induction reached with
  | fresh surroundings => exact CacheState.queued_empty _
  | elsewhere _ surroundings grown queued => exact queued.mono grown
  | decline _ new fired belongs queued => exact queued.mono (List.subset_append_left _ _)
  | board _ new belongs queued => exact queued.board new _
  | @act now turn next _ act queued =>
      rw [act.started_eq]
      obtain ⟨flight, member, change⟩ := act.state_cases queued
      rcases change with ⟨kept?, departs, kept⟩ | emptied | ⟨config, dials, owns, empty⟩
      · exact queued.departs member departs kept
      · exact emptied ▸ queued.fill_none flight.slot
      · exact dials ▸ queued.markDialing member owns empty config
  | @drop now turn flight _ member queued =>
      exact queued.departs member (turn.state.departs_leave flight)
        fun connection kept => Or.inl kept
  | clear _ queued => exact queued.clear

/-- At every moment the slots are found where they should be. -/
theorem Reached.charted
    (reached : Reached cache span now turn) :
    turn.state.Charted span now := by
  induction reached with
  | fresh surroundings => exact CacheState.charted_empty span
  | elsewhere _ surroundings grown charted => exact charted
  | decline _ new fired belongs charted => exact charted
  | board before new belongs charted => exact charted.board before.queued new belongs
  | @act now turn next before act charted =>
      have queued := before.queued
      have nextQueued := (Reached.act before act).queued
      rw [act.started_eq] at nextQueued
      obtain ⟨flight, member, change⟩ := act.state_cases queued
      rcases change with ⟨kept?, departs, kept⟩ | emptied | ⟨config, dials, -, -⟩
      · apply charted.departs queued member departs nextQueued
        intro connection left
        exact (kept connection left).imp_right And.left
      · exact emptied ▸ charted.fill_none member
      · exact dials ▸ charted.markDialing flight config
  | @drop now turn flight before member charted =>
      have nextQueued := (Reached.drop before member).queued
      exact charted.departs before.queued member (turn.state.departs_leave flight)
        nextQueued fun connection kept => Or.inl kept
  | clear _ charted => exact charted.clear

/-- At every moment the lookups under way have the endpoints that their addresses
resolve to. -/
theorem Reached.endpoint_eq
    (reached : Reached cache span now turn) :
    ∀ flight ∈ turn.state.flights,
      flight.endpoint = cache.family.resolve flight.lookup.address := by
  induction reached with
  | fresh surroundings =>
      intro flight member
      exact absurd member List.not_mem_nil
  | elsewhere _ surroundings grown endpoints => exact endpoints
  | decline _ new fired belongs endpoints => exact endpoints
  | @board now turn lookup _ new belongs endpoints =>
      intro flight member
      change flight ∈ (turn.state.board _ _).1.flights at member
      rw [CacheState.flights_board, CacheState.board_snd, List.mem_append,
        List.mem_singleton] at member
      rcases member with old | rfl
      · exact endpoints flight old
      · rfl
  | @act now turn next before act endpoints =>
      obtain ⟨flight, -, change⟩ := act.state_cases before.queued
      intro other member
      rcases change with ⟨kept?, departs, -⟩ | emptied | ⟨config, dials, -, -⟩
      · exact endpoints other (departs.mem_flights_iff.mp member).1
      · rw [emptied] at member
        exact endpoints other member
      · rw [dials, CacheState.flights_markDialing, List.mem_map] at member
        obtain ⟨earlier, earlierMember, rfl⟩ := member
        rw [Flight.endpoint_whenDialing, Flight.lookup_whenDialing]
        exact endpoints earlier earlierMember
  | @drop now turn flight before member endpoints =>
      intro other otherMember
      have departs := turn.state.departs_leave flight
      exact endpoints other (departs.mem_flights_iff.mp otherMember).1
  | clear _ endpoints => exact endpoints

end Cache
end Switchboard
