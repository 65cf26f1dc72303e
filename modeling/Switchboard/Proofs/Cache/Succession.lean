import Switchboard.Proofs.Cache.Service

/-!
# Succession

An endpoint has one connection at a time.  As long as no clear comes between, another
connection is dialed only after the former one has been evicted; and where connections
count as healthy always, all lookups get the first one.
-/

namespace Switchboard
namespace Cache

open History Trace

/-- How connections of one endpoint succeed each other between two clears. -/
structure Succession
    (cache : Cache)
    (surroundings : Surroundings)
    (events : List Event) : Prop where
  /-- If two lookups that share a span get different connections, the former one is evicted
  after the former lookup has got it and before the latter one is dialed, and nobody gets
  it afterwards. -/
  evicted : ∀ earlier first former between second latter later,
    (cache.after surroundings events).effects =
        earlier ++ .returned first (.ok former) :: between ++
          .returned second (.ok latter) :: later →
      cache.ShareSpan events first second → former ≠ latter →
        ∃ before closer endpoint state meanwhile dialed config after,
          between = before ++ .closed closer former endpoint state :: meanwhile ++
            .dialed latter dialed config :: after ∧
          (∃ past event future, events = past ++ event :: future ∧
            cache.Evicts (cache.after surroundings past) event closer former state) ∧
          ∀ ticket, .returned ticket (.ok former) ∉ meanwhile ++ after ++ later
  /-- If connections count as healthy always, one dial of a span succeeds at most. -/
  alone : cache.policy = .alwaysHealthy → ∀ first second,
    .returned first (.ok first) ∈ (cache.after surroundings events).effects →
      .returned second (.ok second) ∈ (cache.after surroundings events).effects →
        cache.ShareSpan events first second → first = second
  /-- If connections count as healthy always, the lookups of a span neither ask nor dial
  after one of them has got a connection; each ends with this connection unless it is
  cancelled. -/
  shared : cache.policy = .alwaysHealthy → ∀ first connection,
    .returned first (.ok connection) ∈ (cache.after surroundings events).effects →
      ∀ event ticket, cache.ShareSpan (events ++ [event]) first ticket →
        ∀ effect ∈ (cache.step (cache.after surroundings events).surroundings
            (cache.after surroundings events).state event).effects,
          (∀ question, effect ≠ .consulted ticket question) ∧
            (∀ endpoint config, effect ≠ .dialed ticket endpoint config) ∧
            ∀ outcome, effect = .returned ticket outcome →
              outcome = .ok connection ∨
                IsCancellation (cache.after surroundings events) event
  /-- If connections count as healthy always, one pass over the lookups under way gives the
  connection to all that share the span, unless their tokens have fired. -/
  served : cache.policy = .alwaysHealthy → ∀ first connection,
    .returned first (.ok connection) ∈ (cache.after surroundings events).effects →
      ∀ flight ∈ (cache.after surroundings events).state.flights,
        cache.ShareSpan events first flight.ticket →
          (cache.after surroundings events).surroundings.hasFired
              flight.lookup.token? = false →
            .returned flight.ticket (.ok connection) ∈
              (cache.pass (cache.after surroundings events)).effects
  /-- A lookup is under way until it ends or is dropped. -/
  accounted : ∀ ticket, (lookup? events ticket).isSome →
    ticket ∈ surroundings.started ∨
      ticket ∈ (cache.after surroundings events).state.inFlight ∨
      HasEnded (cache.after surroundings events).effects ticket ∨
      cache.IsDropped surroundings events ticket

variable {cache : Cache} {span : Ticket → Option LookupSpan} {now : Nat} {turn : Turn}

/-! ## Different connections -/

/-- Of two members of a list the one that does not come after the other comes before. -/
theorem exists_between
    {earlier between before rest : List Effect}
    {first second : Effect}
    (whole : earlier ++ first :: between = before ++ second :: rest)
    (different : first ≠ second)
    (absent : first ∉ rest) :
    ∃ middle, between = middle ++ second :: rest := by
  rcases List.append_eq_append_iff.mp whole with
    ⟨middle, -, same⟩ | ⟨middle, -, same⟩
  · cases middle with
    | nil =>
        rw [List.nil_append, List.cons.injEq] at same
        exact absurd same.1 different
    | cons head others =>
        rw [List.cons_append, List.cons.injEq] at same
        exact ⟨others, same.2⟩
  · cases middle with
    | nil =>
        rw [List.nil_append, List.cons.injEq] at same
        exact absurd same.1.symm different
    | cons head others =>
        rw [List.cons_append, List.cons.injEq] at same
        rw [same.2] at absent
        exact absurd (List.mem_append_right _ List.mem_cons_self) absent

/-- Between two different connections of a span the former one is closed and the latter
one is dialed. -/
theorem IsOrderly.closed_between
    {earlier between later : List Effect}
    {first former second latter : Ticket}
    (orderly : cache.IsOrderly span
      (earlier ++ .returned first (.ok former) :: between ++
        .returned second (.ok latter) :: later))
    (home : span first = span second)
    (different : former ≠ latter) :
    ∃ before closer endpoint state meanwhile dialed config after,
      between = before ++ .closed closer former endpoint state :: meanwhile ++
        .dialed latter dialed config :: after ∧
      ∀ ticket, .returned ticket (.ok former) ∉ meanwhile ++ after ++ later := by
  obtain ⟨-, start, dialed, config, after, whole, closed⟩ := orderly _ _ later rfl
  have handedOut : HandsOut span (earlier ++ .returned first (.ok former) :: between)
      (span second) former :=
    ⟨first, home, List.mem_append_right _ List.mem_cons_self⟩
  obtain ⟨closer, endpoint, state, member⟩ := closed former different handedOut
  obtain ⟨before, meanwhile, rfl⟩ := List.append_of_mem member
  rw [List.append_assoc, List.cons_append] at whole
  rw [whole, List.append_assoc, List.cons_append] at orderly
  have gone := orderly.not_returned_later
  obtain ⟨middle, split⟩ := exists_between whole nofun
    fun again => gone first (List.mem_append_left _ again)
  refine ⟨middle, closer, endpoint, state, meanwhile, dialed, config, after, ?_, ?_⟩
  · rw [split, List.append_assoc, List.cons_append]
  · intro ticket again
    apply gone ticket
    simp only [List.mem_append, List.mem_cons] at again ⊢
    rcases again with (early | middling) | late
    · exact Or.inl (Or.inl early)
    · exact Or.inl (Or.inr (Or.inr middling))
    · exact Or.inr (Or.inr late)

/-- Every close of a history is an eviction. -/
theorem exists_evicts
    {surroundings : Surroundings}
    {events : List Event}
    {closer connection : Ticket}
    {endpoint : String}
    {state : Connectivity}
    (closes : .closed closer connection endpoint state ∈
      (cache.after surroundings events).effects) :
    ∃ past event future, events = past ++ event :: future ∧
      cache.Evicts (cache.after surroundings past) event closer connection state := by
  obtain ⟨past, event, future, whole, done⟩ := exists_step_of_mem_effects closes
  exact ⟨past, event, future, whole, evicts_of_closed done⟩

/-! ## One connection -/

theorem Polls.effects_eq
    {event : Event}
    {moment : Turn}
    {flight : Flight}
    (polls : cache.Polls turn event moment flight) :
    moment.effects = turn.effects := by
  cases polls with
  | again member => rfl
  | first new unfired => rfl

/-- A lookup that is polled after its token has fired is cancelled. -/
theorem Polls.isCancellation
    {event : Event}
    {moment : Turn}
    {flight : Flight}
    (polls : cache.Polls turn event moment flight)
    (fired : moment.surroundings.hasFired flight.lookup.token? = true) :
    IsCancellation turn event := by
  cases polls with
  | again member => exact ⟨flight, member, rfl, fired⟩
  | first new unfired =>
      rw [CacheState.board_snd] at fired
      exact fired

section Healthy

variable (healthy : cache.policy = .alwaysHealthy)
include healthy

/-- The span of a connection has handed out no other one. -/
theorem Reached.connection_eq
    (reached : Reached cache span now turn)
    {first former second latter : Ticket}
    (firstReturned : .returned first (.ok former) ∈ turn.effects)
    (secondReturned : .returned second (.ok latter) ∈ turn.effects)
    (home : span first = span second) :
    former = latter := by
  have keeping := reached.keeping
  have unclosed := reached.orderly.not_wasClosed_of_alwaysHealthy healthy
  rcases keeping.kept first former firstReturned with closed | ⟨left, leftHeld, leftHome⟩
  · exact absurd closed (unclosed former)
  · rcases keeping.kept second latter secondReturned with closed | ⟨right, rightHeld, rightHome⟩
    · exact absurd closed (unclosed latter)
    · have here := reached.charted.unique left right (Or.inl ⟨former, leftHeld⟩)
        (Or.inl ⟨latter, rightHeld⟩) (by rw [leftHome, rightHome, home])
      rw [here, rightHeld, Option.some.injEq] at leftHeld
      exact leftHeld.symm

/-- A lookup whose slot has a connection does not dial. -/
theorem not_redials_of_held
    {surroundings : Surroundings}
    {state : CacheState}
    {flight : Flight}
    {connection : Ticket}
    (held : (state.slotAt flight.slot).connection? = some connection) :
    ¬cache.Redials surroundings state flight := by
  intro redials
  have stale := redials.lacks connection held
  rw [healthy] at stale
  exact Bool.noConfusion stale

theorem Reached.not_awaits_of_held
    (reached : Reached cache span now turn)
    {flight : Flight}
    {connection : Ticket}
    (member : flight ∈ turn.state.flights)
    (held : (turn.state.slotAt flight.slot).connection? = some connection)
    (config : DialConfig) :
    ¬cache.Awaits turn.surroundings turn.state flight config := by
  rintro (phase | ⟨redials, -⟩)
  · have waiting := reached.queued.phase_eq_queued_of_held member held
    rw [phase] at waiting
    cases waiting
  · exact not_redials_of_held healthy held redials

/-- A lookup whose slot has a connection ends with it, unless its token has fired. -/
theorem Reached.outcome_eq_of_held
    (reached : Reached cache span now turn)
    {flight : Flight}
    {connection : Ticket}
    {outcome : Outcome}
    (member : flight ∈ turn.state.flights)
    (held : (turn.state.slotAt flight.slot).connection? = some connection)
    (ends : cache.Ends turn.surroundings turn.state flight outcome) :
    outcome = .ok connection ∨
      turn.surroundings.hasFired flight.lookup.token? = true := by
  have idle := reached.not_awaits_of_held healthy member held
  cases outcome with
  | ok other =>
      rcases ends with ⟨-, config, state?, awaits, -⟩ | ⟨-, same, -⟩
      · exact absurd awaits (idle config)
      · rw [held, Option.some.injEq] at same
        exact Or.inl (congrArg Except.ok same.symm)
  | error error =>
      rcases ends with ⟨fired, -⟩ | ⟨redials, -⟩ | ⟨config, awaits, -⟩
      · exact Or.inr fired
      · exact absurd redials (not_redials_of_held healthy held)
      · exact absurd awaits (idle config)

/-- After a lookup has got a connection, all that share its span only get this one. -/
theorem shared_step
    {surroundings : Surroundings}
    {events : List Event}
    {first connection ticket : Ticket}
    {event : Event}
    {effect : Effect}
    (returned : .returned first (.ok connection) ∈
      (cache.after surroundings events).effects)
    (share : cache.ShareSpan (events ++ [event]) first ticket)
    (member : effect ∈ (cache.step (cache.after surroundings events).surroundings
      (cache.after surroundings events).state event).effects) :
    (∀ question, effect ≠ .consulted ticket question) ∧
      (∀ endpoint config, effect ≠ .dialed ticket endpoint config) ∧
      ∀ outcome, effect = .returned ticket outcome →
        outcome = .ok connection ∨
          IsCancellation (cache.after surroundings events) event := by
  obtain ⟨span, firstSpan, ticketSpan⟩ := shareSpan_iff.mp share
  rcases grounds_step member with
    ⟨moment, flight, polls, grounds⟩ | ⟨lookup, rfl, fired, rfl⟩ | ⟨notice, rfl⟩
  · have reached := polls.reached (cache.reached_after surroundings events [event])
      (cache.span?_of_start surroundings events [] event)
    have flying := polls.mem_flights
    rw [← polls.effects_eq] at returned
    have held : flight.ticket = ticket →
        (moment.state.slotAt flight.slot).connection? = some connection := by
      rintro rfl
      exact reached.held_of_returned healthy returned flying
        (ticketSpan.trans firstSpan.symm)
    refine ⟨?_, ?_, ?_⟩
    · rintro question rfl
      obtain ⟨same, redials⟩ := grounds
      exact not_redials_of_held healthy (held same.symm) redials
    · rintro endpoint config rfl
      obtain ⟨same, -, redials, -⟩ := grounds
      exact not_redials_of_held healthy (held same.symm) redials
    · rintro outcome rfl
      obtain ⟨same, ends⟩ := grounds
      exact (reached.outcome_eq_of_held healthy flying (held same.symm) ends).imp_right
        polls.isCancellation
  · exact ⟨nofun, nofun, fun _ _ => Or.inr fired⟩
  · exact ⟨nofun, nofun, nofun⟩

end Healthy

/-- After every history connections have succeeded each other so. -/
theorem succession_after
    (cache : Cache)
    (surroundings : Surroundings)
    (events : List Event) :
    cache.Succession surroundings events where
  evicted earlier first former between second latter later whole share different := by
    have reached := cache.reached_end surroundings events
    obtain ⟨span, firstSpan, secondSpan⟩ := shareSpan_iff.mp share
    have orderly := reached.orderly
    rw [whole] at orderly
    obtain ⟨before, closer, endpoint, state, meanwhile, dialed, config, after, split, gone⟩ :=
      orderly.closed_between (firstSpan.trans secondSpan.symm) different
    have closes : .closed closer former endpoint state ∈
        (cache.after surroundings events).effects := by
      rw [whole, split]
      simp
    exact ⟨before, closer, endpoint, state, meanwhile, dialed, config, after, split,
      exists_evicts closes, gone⟩
  alone healthy first second firstReturned secondReturned share := by
    have reached := cache.reached_end surroundings events
    obtain ⟨span, firstSpan, secondSpan⟩ := shareSpan_iff.mp share
    exact reached.connection_eq healthy firstReturned secondReturned
      (firstSpan.trans secondSpan.symm)
  shared healthy first connection returned event ticket share effect member :=
    shared_step healthy returned share member
  served healthy first connection returned flight member share unfired := by
    have reached := cache.reached_end surroundings events
    obtain ⟨span, firstSpan, flightSpan⟩ := shareSpan_iff.mp share
    exact reached.served_by_pass healthy returned member
      (flightSpan.trans firstSpan.symm) unfired
  accounted ticket known :=
    accounted_after cache surroundings (mem_started_of_lookup? cache surroundings known)

/-- A connection that has failed is succeeded by another one. -/
example :
    let cache := Cache.ofFamily .agent (.ofFlag true)
    let lookup := fun ticket => Lookup.mk ticket "agent:1" .insecure none
    let turn := cache.after .initial
      [.start (lookup 1), .change (.report 1 .transientFailure), .start (lookup 2)]
    turn.outcomeOf? 1 = some (.ok 1) ∧ turn.outcomeOf? 2 = some (.ok 2) :=
  ⟨rfl, rfl⟩

end Cache
end Switchboard
