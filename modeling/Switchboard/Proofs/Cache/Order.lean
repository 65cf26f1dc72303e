import Switchboard.Proofs.Cache.Deeds
import Switchboard.Proofs.Cache.Keeping
import Switchboard.Proofs.Cache.Reached

/-!
# The order of effects

Every effect in a trace has what is due before it.  A connection is closed only after it
has been handed out, and is not handed out any more; it is handed out only if all others
of the span had been closed when it was dialed.
-/

namespace Switchboard
namespace Cache

open Trace

/-- What is due before an effect. -/
def Due
    (cache : Cache)
    (span : Ticket → Option LookupSpan)
    (earlier : List Effect) : Effect → Prop
  | .notice _ | .consulted _ _ | .returned _ (.error _) => True
  | .dialed ticket _ _ => ¬HasDialed earlier ticket
  | .closed ticket connection _ state =>
      cache.policy.reusable state = false ∧
        .returned connection (.ok connection) ∈ earlier ∧
        ¬WasClosed earlier connection ∧
        ¬HasClosed earlier ticket ∧
        ¬HasDialed earlier ticket
  | .returned ticket (.ok connection) =>
      ¬WasClosed earlier connection ∧ Succeeds span earlier (span ticket) connection

/-- Every effect in a trace has what is due before it. -/
def IsOrderly
    (cache : Cache)
    (span : Ticket → Option LookupSpan)
    (effects : List Effect) : Prop :=
  ∀ earlier effect later, effects = earlier ++ effect :: later →
    cache.Due span earlier effect

variable {cache : Cache} {span : Ticket → Option LookupSpan} {now : Nat} {turn : Turn}
  {effects more : List Effect}

theorem isOrderly_nil
    (cache : Cache)
    (span : Ticket → Option LookupSpan) :
    cache.IsOrderly span [] := by
  intro earlier effect later whole
  exact absurd whole.symm (List.append_ne_nil_of_right_ne_nil _ (List.cons_ne_nil _ _))

theorem IsOrderly.concat
    {last : Effect}
    (orderly : cache.IsOrderly span effects)
    (due : cache.Due span effects last) :
    cache.IsOrderly span (effects ++ [last]) := by
  intro earlier effect later whole
  rcases List.eq_nil_or_concat later with rfl | ⟨others, final, rfl⟩
  · obtain ⟨rfl, same⟩ := List.append_inj' whole rfl
    rw [List.cons.injEq] at same
    exact same.1 ▸ due
  · rw [List.concat_eq_append, ← List.cons_append, ← List.append_assoc] at whole
    obtain ⟨rfl, -⟩ := List.append_inj' whole rfl
    exact orderly earlier effect others rfl

theorem due_of_isQuiet
    {effect : Effect}
    (quiet : effect.isQuiet = true) :
    cache.Due span effects effect := by
  cases effect with
  | notice notice => exact trivial
  | consulted ticket question => exact trivial
  | dialed ticket endpoint config => exact absurd quiet Bool.false_ne_true
  | closed ticket connection endpoint state => exact absurd quiet Bool.false_ne_true
  | returned ticket outcome =>
      cases outcome with
      | ok connection => exact absurd quiet Bool.false_ne_true
      | error error => exact trivial

/-- For quiet effects nothing is due. -/
theorem IsOrderly.quiet
    (orderly : cache.IsOrderly span effects)
    (quiet : IsQuiet more) :
    cache.IsOrderly span (effects ++ more) := by
  induction more using List.reverseRecOn with
  | nil => simpa using orderly
  | append_singleton others last inductionHypothesis =>
      rw [← List.append_assoc]
      have othersQuiet : IsQuiet others := by
        intro effect member
        exact quiet effect (List.mem_append_left _ member)
      apply (inductionHypothesis othersQuiet).concat
      exact due_of_isQuiet (quiet last (List.mem_append_right _ List.mem_cons_self))

/-! ## What the acts do -/

/-- Asking an authorizer is quiet. -/
theorem exists_effects_consult
    (cache : Cache)
    (turn : Turn)
    (flight : Flight) :
    ∃ asked, IsQuiet asked ∧
      (cache.consult turn flight).effects = turn.effects ++ asked := by
  refine ⟨_, ?_, rfl⟩
  intro effect member
  rw [List.mem_append, List.mem_map, List.mem_map] at member
  rcases member with ⟨question, -, rfl⟩ | ⟨notice, -, rfl⟩
  · rfl
  · rfl

theorem effects_establish
    (turn : Turn)
    (flight : Flight)
    (state? : Option Connectivity) :
    (establish turn flight state?).effects =
      turn.effects ++ [.notice (.established flight.endpoint)] ++
        [.returned flight.ticket (.ok flight.ticket)] := rfl

theorem effects_evict
    (turn : Turn)
    (flight : Flight)
    (connection : Ticket) :
    (evict turn flight connection).effects =
      turn.effects ++
          [.notice (.evicting flight.endpoint (turn.surroundings.stateOf connection))] ++
        [.closed flight.ticket connection flight.endpoint
          (turn.surroundings.stateOf connection)] := by
  simp [evict, Turn.record]

theorem Reached.deeds_act
    {next : Turn}
    (reached : Reached cache span now turn)
    (act : Act cache turn next)
    (deeds : turn.state.Deeds turn.surroundings.started turn.effects) :
    next.state.Deeds turn.surroundings.started next.effects := by
  have queued := reached.queued
  have leave : ∀ {flight effects}, flight ∈ turn.state.flights →
      turn.state.Deeds turn.surroundings.started effects →
        (turn.state.leave flight).Deeds turn.surroundings.started effects := by
    intro flight effects member deeds
    exact deeds.departs member (turn.state.departs_leave flight)
      fun connection kept => Or.inl kept
  cases act with
  | @cancel flight member fired =>
      exact (leave member deeds).idle (isIdle_returned _ _)
  | @reuse flight connection member waiting owns held reusable =>
      have noted := deeds.idle (isQuiet_notice
        (.reusing flight.endpoint (turn.surroundings.stateOf connection))).isIdle
      exact (leave member noted).idle (isIdle_returned _ _)
  | @evict flight connection member waiting owns held stale =>
      have noted := deeds.idle (isQuiet_notice
        (.evicting flight.endpoint (turn.surroundings.stateOf connection))).isIdle
      rw [effects_evict]
      exact noted.evict queued reached.charted member owns held _ _
  | @refuse flight error member waiting owns empty refused =>
      obtain ⟨asked, quiet, done⟩ := exists_effects_consult cache turn flight
      have left := (leave member (deeds.idle quiet.isIdle)).idle
        (isIdle_returned flight.ticket (.error error))
      rw [← done] at left
      exact left
  | @dial flight config member waiting owns empty prepared =>
      obtain ⟨asked, quiet, done⟩ := exists_effects_consult cache turn flight
      have dialed := (deeds.idle quiet.isIdle).markDialing queued member
        flight.endpoint config
      rw [← done] at dialed
      exact dialed
  | @fail flight config error member dialing failed =>
      exact (leave member deeds).idle (isIdle_returned _ _)
  | @establish flight config state? member dialing connected =>
      have owns := (queued.dialing flight member (Flight.isDialing_of_phase_eq dialing)).1
      have noted := deeds.idle (isQuiet_notice (.established flight.endpoint)).isIdle
      rw [effects_establish]
      refine CacheState.Deeds.idle ?_ (isIdle_returned _ _)
      apply noted.departs member (turn.state.departs_fill_leave flight _)
      intro connection same
      rw [Option.some.injEq] at same
      exact Or.inr ⟨same.symm, owns⟩

/-- At every moment the trace tells what the lookups have done. -/
theorem Reached.deeds
    (reached : Reached cache span now turn) :
    turn.state.Deeds turn.surroundings.started turn.effects := by
  induction reached with
  | fresh surroundings => exact CacheState.deeds_empty _
  | elsewhere _ surroundings grown deeds => exact deeds.mono grown
  | decline _ new fired belongs deeds =>
      exact (deeds.mono (List.subset_append_left _ _)).idle (isIdle_returned _ _)
  | board before new belongs deeds => exact deeds.board before.queued new _
  | act before act deeds =>
      rw [act.started_eq]
      exact before.deeds_act act deeds
  | @drop now turn flight before member deeds =>
      exact deeds.departs member (turn.state.departs_leave flight)
        fun connection kept => Or.inl kept
  | clear _ deeds => exact deeds.clear.idle (isQuiet_notice _).isIdle

theorem Reached.keeping_act
    {next : Turn}
    (reached : Reached cache span now turn)
    (act : Act cache turn next)
    (keeping : turn.state.Keeping span turn.effects) :
    next.state.Keeping span next.effects := by
  have queued := reached.queued
  have charted := reached.charted
  have nextQueued := (Reached.act reached act).queued
  have nextCharted := (Reached.act reached act).charted
  cases act with
  | @cancel flight member fired =>
      exact (keeping.leave flight).quiet (isQuiet_error _ _)
  | @reuse flight connection member waiting owns held reusable =>
      have left := (keeping.quiet (isQuiet_notice
        (.reusing flight.endpoint (turn.surroundings.stateOf connection)))).leave flight
      have stillHeld :
          ((turn.state.leave flight).slotAt flight.slot).connection? = some connection := by
        rw [(turn.state.departs_leave flight).connection?, if_pos rfl]
        exact held
      exact left.handOut nextQueued nextCharted stillHeld (charted.span_slot member)
  | @evict flight connection member waiting owns held stale =>
      have noted := keeping.quiet (isQuiet_notice
        (.evicting flight.endpoint (turn.surroundings.stateOf connection)))
      rw [effects_evict]
      exact noted.evict held _ _ _
  | @refuse flight error member waiting owns empty refused =>
      obtain ⟨asked, quiet, done⟩ := exists_effects_consult cache turn flight
      have left := ((keeping.quiet quiet).leave flight).quiet
        (isQuiet_error flight.ticket error)
      rw [← done] at left
      exact left
  | @dial flight config member waiting owns empty prepared =>
      obtain ⟨asked, quiet, done⟩ := exists_effects_consult cache turn flight
      have dialed := (keeping.quiet quiet).markDialing queued charted member empty
        flight.endpoint config
      rw [← done] at dialed
      exact dialed
  | @fail flight config error member dialing failed =>
      exact (keeping.leave flight).quiet (isQuiet_error _ _)
  | @establish flight config state? member dialing connected =>
      have isDialing := Flight.isDialing_of_phase_eq dialing
      have noted := keeping.quiet (isQuiet_notice (.established flight.endpoint))
      rw [effects_establish]
      exact noted.establish queued charted member isDialing

/-- At every moment the trace tells how the connections are kept. -/
theorem Reached.keeping
    (reached : Reached cache span now turn) :
    turn.state.Keeping span turn.effects := by
  induction reached with
  | fresh surroundings => exact CacheState.keeping_empty span
  | elsewhere _ surroundings grown keeping => exact keeping
  | decline _ new fired belongs keeping => exact keeping.quiet (isQuiet_error _ _)
  | board before new belongs keeping => exact keeping.board before.queued new _
  | act before act keeping => exact before.keeping_act act keeping
  | drop _ member keeping => exact keeping.leave _
  | clear _ keeping => exact keeping.clear.quiet (isQuiet_notice _)

/-- An act does nothing before what is due. -/
theorem Reached.orderly_act
    {next : Turn}
    (reached : Reached cache span now turn)
    (act : Act cache turn next)
    (orderly : cache.IsOrderly span turn.effects) :
    cache.IsOrderly span next.effects := by
  have deeds := reached.deeds
  have keeping := reached.keeping
  have charted := reached.charted
  cases act with
  | @cancel flight member fired => exact orderly.quiet (isQuiet_error _ _)
  | @reuse flight connection member waiting owns held reusable =>
      have quiet := isQuiet_notice
        (.reusing flight.endpoint (turn.surroundings.stateOf connection))
      refine (orderly.quiet quiet).concat ⟨?_, ?_⟩
      · intro closed
        exact ((deeds.idle quiet.isIdle).closed connection closed).2.2 flight.slot held
      · rw [← charted.span_slot member]
        exact (keeping.quiet quiet).held_succeeds flight.slot connection held
  | @evict flight connection member waiting owns held stale =>
      have quiet := isQuiet_notice
        (.evicting flight.endpoint (turn.surroundings.stateOf connection))
      have noted := deeds.idle quiet.isIdle
      rw [effects_evict]
      refine (orderly.quiet quiet).concat ⟨stale, ?_, ?_, ?_, ?_⟩
      · exact (keeping.quiet quiet).held flight.slot connection held
      · intro closed
        exact (noted.closed connection closed).2.2 flight.slot held
      · intro closed
        have empty := ((noted.closer flight.ticket closed).2 flight member rfl).2
        rw [held] at empty
        cases empty
      · intro dialed
        have dialing := (noted.dialed flight.ticket dialed).2 flight member rfl
        exact Flight.isDialing_ne_true_of_waiting waiting dialing
  | @refuse flight error member waiting owns empty refused =>
      obtain ⟨asked, quiet, done⟩ := exists_effects_consult cache turn flight
      have refused := (orderly.quiet quiet).quiet
        (isQuiet_error flight.ticket error)
      rw [← done] at refused
      exact refused
  | @dial flight config member waiting owns empty prepared =>
      obtain ⟨asked, quiet, done⟩ := exists_effects_consult cache turn flight
      have consulted := deeds.idle quiet.isIdle
      have orderlyAsked := orderly.quiet quiet
      rw [← done] at consulted orderlyAsked
      refine orderlyAsked.concat ?_
      intro dialed
      have dialing := (consulted.dialed flight.ticket dialed).2 flight member rfl
      exact Flight.isDialing_ne_true_of_waiting waiting dialing
  | @fail flight config error member dialing failed =>
      exact orderly.quiet (isQuiet_error _ _)
  | @establish flight config state? member dialing connected =>
      have isDialing := Flight.isDialing_of_phase_eq dialing
      have quiet := isQuiet_notice (.established flight.endpoint)
      rw [effects_establish]
      refine (orderly.quiet quiet).concat ⟨?_, ?_⟩
      · intro closed
        apply ((deeds.idle quiet.isIdle).closed flight.ticket closed).2.1
        exact List.mem_map.mpr ⟨flight, member, rfl⟩
      · rw [← charted.span_slot member]
        exact (keeping.quiet quiet).dialing_succeeds flight member isDialing

/-- At every moment the trace is orderly. -/
theorem Reached.orderly
    (reached : Reached cache span now turn) :
    cache.IsOrderly span turn.effects := by
  induction reached with
  | fresh surroundings => exact isOrderly_nil cache span
  | elsewhere _ surroundings grown orderly => exact orderly
  | decline _ new fired belongs orderly => exact orderly.quiet (isQuiet_error _ _)
  | board _ new belongs orderly => exact orderly
  | act before act orderly => exact before.orderly_act act orderly
  | drop _ member orderly => exact orderly
  | clear _ orderly => exact orderly.quiet (isQuiet_notice _)

end Cache
end Switchboard
