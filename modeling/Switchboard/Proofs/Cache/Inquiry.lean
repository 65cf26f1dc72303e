import Switchboard.Proofs.Cache.Grounds
import Switchboard.Proofs.Cache.Order

/-!
# What lookups ask

A lookup asks its authorizer when it has the lock of its slot and finds no connection there
that may be handed out.  Then it is refused and ends, or it dials; in neither case it asks
again.  So all that a lookup ever asks belongs to one preparation.
-/

namespace Switchboard

/-- The question that an effect puts for a lookup. -/
def Effect.questionOf?
    (effect : Effect)
    (ticket : Ticket) : Option Question :=
  match effect with
  | .consulted other question => if other = ticket then some question else none
  | .notice _ | .dialed _ _ _ | .closed _ _ _ _ | .returned _ _ => none

theorem Effect.ticket?_of_questionOf?
    {effect : Effect}
    {ticket : Ticket}
    {question : Question}
    (asks : effect.questionOf? ticket = some question) :
    effect.ticket? = some ticket := by
  cases effect with
  | consulted other asked =>
      rw [questionOf?, Option.ite_none_right_eq_some] at asks
      rw [ticket?, asks.1]
  | notice notice => cases asks
  | dialed other endpoint config => cases asks
  | closed other connection endpoint state => cases asks
  | returned other outcome => cases asks

namespace Trace

/-- What a lookup has asked its authorizer, in order. -/
def questionsOf
    (effects : List Effect)
    (ticket : Ticket) : List Question :=
  effects.filterMap (·.questionOf? ticket)

variable {effects more : List Effect}

theorem questionsOf_append
    (effects more : List Effect)
    (ticket : Ticket) :
    questionsOf (effects ++ more) ticket =
      questionsOf effects ticket ++ questionsOf more ticket :=
  List.filterMap_append

theorem mem_questionsOf
    {ticket : Ticket}
    {question : Question} :
    question ∈ questionsOf effects ticket ↔ .consulted ticket question ∈ effects := by
  rw [questionsOf, List.mem_filterMap]
  constructor
  · rintro ⟨effect, member, asks⟩
    cases effect with
    | consulted other asked =>
        rw [Effect.questionOf?, Option.ite_none_right_eq_some, Option.some.injEq] at asks
        obtain ⟨rfl, rfl⟩ := asks
        exact member
    | notice notice => cases asks
    | dialed other endpoint config => cases asks
    | closed other connection endpoint state => cases asks
    | returned other outcome => cases asks
  · intro member
    exact ⟨_, member, by simp [Effect.questionOf?]⟩

/-- A lookup that consults nobody asks nothing. -/
theorem questionsOf_eq_nil
    {ticket : Ticket}
    (silent : ∀ question, .consulted ticket question ∉ effects) :
    questionsOf effects ticket = [] := by
  rw [List.eq_nil_iff_forall_not_mem]
  intro question asks
  exact silent question (mem_questionsOf.mp asks)

/-- What a lookup asks in a preparation. -/
theorem questionsOf_consulted
    (ticket other : Ticket)
    (preparation : Preparation) :
    questionsOf (preparation.questions.map (.consulted ticket) ++
        preparation.notices.map .notice) other =
      if other = ticket then preparation.questions else [] := by
  have noted : questionsOf (preparation.notices.map .notice) other = [] :=
    questionsOf_eq_nil (by simp)
  rw [questionsOf_append, noted, List.append_nil]
  by_cases same : other = ticket
  · subst same
    simp [questionsOf, List.filterMap_map, Effect.questionOf?]
  · rw [if_neg same]
    exact questionsOf_eq_nil (by simp [Ne.symm same])

end Trace

namespace Cache

open Trace

variable {cache : Cache} {span : Ticket → Option LookupSpan} {now : Nat} {turn : Turn}

/-! ## Who has asked dials or has ended -/

/-- A lookup with a number dials if it is under way. -/
def DialsIfUnderWay
    (state : CacheState)
    (ticket : Ticket) : Prop :=
  ∀ flight ∈ state.flights, flight.ticket = ticket → flight.isDialing = true

theorem DialsIfUnderWay.departs
    {state next : CacheState}
    {ticket : Ticket}
    {flight : Flight}
    {kept? : Option Ticket}
    (dials : DialsIfUnderWay state ticket)
    (departs : state.Departs flight kept? next) :
    DialsIfUnderWay next ticket :=
  fun other member => dials other (departs.mem_flights_iff.mp member).1

/-- A lookup that has departed is not under way. -/
theorem dialsIfUnderWay_of_departs
    {state next : CacheState}
    {flight : Flight}
    {kept? : Option Ticket}
    (departs : state.Departs flight kept? next) :
    DialsIfUnderWay next flight.ticket :=
  fun _ member same => absurd same (departs.mem_flights_iff.mp member).2

theorem Reached.asked_act
    {next : Turn}
    (reached : Reached cache span now turn)
    (act : Act cache turn next)
    (asked : ∀ ticket question, .consulted ticket question ∈ turn.effects →
      ticket ∈ turn.surroundings.started ∧ DialsIfUnderWay turn.state ticket) :
    ∀ ticket question, .consulted ticket question ∈ next.effects →
      ticket ∈ turn.surroundings.started ∧ DialsIfUnderWay next.state ticket := by
  have left : ∀ (flight : Flight) (state : CacheState) (kept? : Option Ticket),
      turn.state.Departs flight kept? state → ∀ ticket question,
        .consulted ticket question ∈ turn.effects →
          ticket ∈ turn.surroundings.started ∧ DialsIfUnderWay state ticket := by
    intro flight state kept? departs ticket question earlier
    obtain ⟨known, dials⟩ := asked ticket question earlier
    exact ⟨known, dials.departs departs⟩
  have started := reached.queued.flights_started
  intro ticket question member
  cases act with
  | @cancel flight flies fired =>
      simp only [Turn.finish, Turn.record, List.mem_append, List.mem_singleton,
        reduceCtorEq, or_false] at member
      exact left _ _ _ (turn.state.departs_leave flight) ticket question member
  | @reuse flight connection flies waiting owns held reusable =>
      simp only [Turn.finish, Turn.record, List.mem_append, List.mem_singleton,
        reduceCtorEq, or_false] at member
      exact left _ _ _ (turn.state.departs_leave flight) ticket question member
  | @evict flight connection flies waiting owns held stale =>
      simp only [evict, Turn.record, List.mem_append, List.mem_cons, List.not_mem_nil,
        reduceCtorEq, or_false] at member
      exact asked ticket question member
  | @refuse flight error flies waiting owns empty refused =>
      rcases mem_effects_finish.mp member with consults | impossible
      · rcases mem_effects_consult consults with
          earlier | ⟨other, same⟩ | ⟨notice, impossible⟩
        · exact left _ _ _ (turn.state.departs_leave flight) ticket question earlier
        · rw [Effect.consulted.injEq] at same
          obtain ⟨rfl, -⟩ := same
          exact ⟨(started flight flies).1,
            dialsIfUnderWay_of_departs (turn.state.departs_leave flight)⟩
        · cases impossible
      · cases impossible
  | @dial flight config flies waiting owns empty prepared =>
      have known : ticket ∈ turn.surroundings.started ∧
          (ticket = flight.ticket ∨ DialsIfUnderWay turn.state ticket) := by
        simp only [dial, Turn.record, List.mem_append, List.mem_singleton, reduceCtorEq,
          or_false] at member
        rcases mem_effects_consult member with earlier | ⟨other, same⟩ | ⟨notice, impossible⟩
        · exact (asked ticket question earlier).imp_right Or.inr
        · rw [Effect.consulted.injEq] at same
          exact ⟨same.1 ▸ (started flight flies).1, Or.inl same.1⟩
        · cases impossible
      refine ⟨known.1, ?_⟩
      intro other otherMember same
      change other ∈ (turn.state.markDialing flight config).flights at otherMember
      rw [CacheState.flights_markDialing, List.mem_map] at otherMember
      obtain ⟨before, beforeMember, rfl⟩ := otherMember
      rw [Flight.ticket_whenDialing] at same
      rw [Flight.isDialing_whenDialing, Bool.or_eq_true, decide_eq_true_eq]
      rcases known.2 with rfl | dials
      · exact Or.inl same
      · exact Or.inr (dials before beforeMember same)
  | @fail flight config error flies dialing failed =>
      simp only [Turn.finish, Turn.record, List.mem_append, List.mem_singleton,
        reduceCtorEq, or_false] at member
      exact left _ _ _ (turn.state.departs_leave flight) ticket question member
  | @establish flight config state? flies dialing connected =>
      simp only [effects_establish, List.mem_append, List.mem_singleton, reduceCtorEq,
        or_false] at member
      exact left _ _ _ (turn.state.departs_fill_leave flight _) ticket question member

/-- At every moment a lookup that has asked its authorizer is dialing, or is not under way any
more. -/
theorem Reached.asked
    (reached : Reached cache span now turn) :
    ∀ ticket question, .consulted ticket question ∈ turn.effects →
      ticket ∈ turn.surroundings.started ∧ DialsIfUnderWay turn.state ticket := by
  induction reached with
  | fresh surroundings =>
      intro ticket question member
      exact absurd member List.not_mem_nil
  | elsewhere _ surroundings grown asked =>
      intro ticket question member
      exact (asked ticket question member).imp_left (grown ·)
  | decline _ new fired belongs asked =>
      intro ticket question member
      simp only [Turn.decline, Turn.record, List.mem_append, List.mem_singleton,
        reduceCtorEq, or_false] at member
      exact (asked ticket question member).imp_left (List.mem_append_left _)
  | @board now turn lookup _ new belongs asked =>
      intro ticket question member
      obtain ⟨known, dials⟩ := asked ticket question member
      refine ⟨List.mem_append_left _ known, ?_⟩
      intro flight flies same
      change flight ∈ (turn.state.board _ _).1.flights at flies
      rw [CacheState.flights_board, CacheState.board_snd, List.mem_append,
        List.mem_singleton] at flies
      rcases flies with old | rfl
      · exact dials flight old same
      · change lookup.ticket = ticket at same
        exact absurd (same ▸ known) new
  | act before act asked =>
      rw [act.started_eq]
      exact before.asked_act act asked
  | drop _ member asked =>
      intro ticket question consulted
      exact (asked ticket question consulted).imp_right
        fun dials => dials.departs (CacheState.departs_leave _ _)
  | clear _ asked =>
      intro ticket question member
      change _ ∈ _ ++ [_] at member
      rw [List.mem_append, List.mem_singleton] at member
      rcases member with earlier | impossible
      · exact asked ticket question earlier
      · cases impossible

/-! ## What is asked in a poll -/

theorem questionsOf_finish
    (turn : Turn)
    (flight : Flight)
    (outcome : Outcome)
    (ticket : Ticket) :
    questionsOf (turn.finish flight outcome).effects ticket =
      questionsOf turn.effects ticket := by
  change questionsOf (turn.effects ++ [_]) ticket = _
  rw [questionsOf_append]
  exact List.append_nil _

theorem questionsOf_awaitDial
    (turn : Turn)
    (flight : Flight)
    (config : DialConfig)
    (ticket : Ticket) :
    questionsOf (awaitDial turn flight config).effects ticket =
      questionsOf turn.effects ticket := by
  cases answer : turn.surroundings.answer flight.endpoint config with
  | pending => rw [awaitDial_of_pending answer]
  | failed error => rw [awaitDial_of_failed answer, questionsOf_finish]
  | connected state? =>
      rw [awaitDial_of_connected answer, effects_establish, questionsOf_append,
        questionsOf_append]
      exact (List.append_nil _).trans (List.append_nil _)

theorem questionsOf_beginDial
    (cache : Cache)
    (turn : Turn)
    (flight : Flight)
    (ticket : Ticket) :
    questionsOf (cache.beginDial turn flight).effects ticket =
      questionsOf turn.effects ticket ++
        if ticket = flight.ticket then
          (cache.prepare turn.surroundings.environment flight.lookup.authorizer).questions
        else [] := by
  have consults : questionsOf (cache.consult turn flight).effects ticket = _ :=
    questionsOf_append turn.effects _ ticket
  rw [questionsOf_consulted] at consults
  cases outcome : (cache.prepare turn.surroundings.environment
      flight.lookup.authorizer).outcome with
  | error error => rw [beginDial_of_error outcome, questionsOf_finish, consults]
  | ok config =>
      rw [beginDial_of_ok outcome, questionsOf_awaitDial]
      change questionsOf ((cache.consult turn flight).effects ++ [_]) ticket = _
      rw [questionsOf_append, consults]
      exact List.append_nil _

/-- A lookup that has its turn when it is polled looks what is in its slot. -/
theorem Enters.advance_eq
    {flight : Flight}
    (enters : Enters turn.surroundings turn.state flight)
    (cache : Cache) :
    cache.advance turn flight = cache.enter turn flight := by
  rw [advance, enters.unfired, enters.waiting]
  simp [enters.owns]

/-- A lookup that finds nothing to hand out closes what is in its slot, and begins to dial. -/
theorem Redials.exists_beginDial
    {flight : Flight}
    (redials : cache.Redials turn.surroundings turn.state flight) :
    ∃ emptied, cache.advance turn flight = cache.beginDial emptied flight ∧
      emptied.surroundings.environment = turn.surroundings.environment ∧
      ∀ ticket, questionsOf emptied.effects ticket = questionsOf turn.effects ticket := by
  rw [redials.enters.advance_eq cache, enter]
  cases held : (turn.state.slotAt flight.slot).connection? with
  | none => exact ⟨turn, rfl, rfl, fun _ => rfl⟩
  | some connection =>
      refine ⟨evict turn flight connection, ?_, rfl, ?_⟩
      · simp [redials.lacks connection held]
      · intro ticket
        exact (questionsOf_append _ _ _).trans (List.append_nil _)

/-- A lookup that finds nothing to hand out asks what the preparation of its dial asks. -/
theorem Redials.questionsOf_advance
    {flight : Flight}
    (redials : cache.Redials turn.surroundings turn.state flight)
    (ticket : Ticket) :
    questionsOf (cache.advance turn flight).effects ticket =
      questionsOf turn.effects ticket ++
        if ticket = flight.ticket then
          (cache.prepare turn.surroundings.environment flight.lookup.authorizer).questions
        else [] := by
  obtain ⟨emptied, advances, environment, asked⟩ := redials.exists_beginDial
  rw [advances, questionsOf_beginDial, environment, asked]

/-- At any other poll nobody asks anything. -/
theorem questionsOf_advance_of_not_redials
    {flight : Flight}
    (idle : ¬cache.Redials turn.surroundings turn.state flight)
    (ticket : Ticket) :
    questionsOf (cache.advance turn flight).effects ticket =
      questionsOf turn.effects ticket := by
  by_cases enters : Enters turn.surroundings turn.state flight
  · rw [enters.advance_eq cache, enter]
    cases held : (turn.state.slotAt flight.slot).connection? with
    | none =>
        have redials : cache.Redials turn.surroundings turn.state flight :=
          ⟨enters, fun connection found => by simp [held] at found⟩
        exact absurd redials idle
    | some connection =>
        dsimp only
        split
        · rw [questionsOf_finish]
          exact (questionsOf_append _ _ _).trans (List.append_nil _)
        · next stale =>
            have redials : cache.Redials turn.surroundings turn.state flight := by
              refine ⟨enters, fun other found => ?_⟩
              rw [held, Option.some.injEq] at found
              rw [← found]
              exact Bool.eq_false_iff.mpr stale
            exact absurd redials idle
  · unfold advance
    split
    · exact questionsOf_finish turn flight _ ticket
    · next unfired =>
        cases phase : flight.phase with
        | dialing config => exact questionsOf_awaitDial turn flight config ticket
        | queued =>
            dsimp only
            rw [if_neg]
            intro owns
            exact enters ⟨Bool.eq_false_iff.mpr unfired, phase, owns⟩

/-- A lookup that finds nothing to hand out asks at an event what the preparation of its dial
asks, and nothing else. -/
theorem Polls.questionsOf_step
    {event : Event}
    {moment : Turn}
    {flight : Flight}
    (polls : cache.Polls turn event moment flight)
    (distinct : turn.state.inFlight.Nodup)
    (redials : cache.Redials moment.surroundings moment.state flight) :
    questionsOf (cache.step turn.surroundings turn.state event).effects flight.ticket =
      (cache.prepare turn.surroundings.environment flight.lookup.authorizer).questions := by
  let silent : Turn := { moment with effects := [] }
  have redialsThen : cache.Redials silent.surroundings silent.state flight := redials
  rw [polls.effects_step distinct, redialsThen.questionsOf_advance, if_pos rfl,
    ← polls.environment_eq]
  rfl

/-! ## What comes of a preparation -/

theorem effects_subset_awaitDial
    (turn : Turn)
    (flight : Flight)
    (config : DialConfig) :
    turn.effects ⊆ (awaitDial turn flight config).effects := by
  cases answer : turn.surroundings.answer flight.endpoint config with
  | pending =>
      rw [awaitDial_of_pending answer]
      exact List.Subset.refl _
  | failed error =>
      rw [awaitDial_of_failed answer]
      exact List.subset_append_left _ _
  | connected state? =>
      rw [awaitDial_of_connected answer, effects_establish, List.append_assoc]
      exact List.subset_append_left _ _

/-- What a poll of a lookup does that finds nothing to hand out: it dials as the dial has been
prepared, or it ends with the refusal. -/
theorem Polls.dials_or_refuses
    {event : Event}
    {moment : Turn}
    {flight : Flight}
    (polls : cache.Polls turn event moment flight)
    (distinct : turn.state.inFlight.Nodup)
    (redials : cache.Redials moment.surroundings moment.state flight) :
    let preparation := cache.prepare turn.surroundings.environment flight.lookup.authorizer
    let effects := (cache.step turn.surroundings turn.state event).effects
    (∃ config, preparation.outcome = .ok config ∧
        .dialed flight.ticket flight.endpoint config ∈ effects) ∨
      ∃ error, preparation.outcome = .error error ∧
        .returned flight.ticket (.error error) ∈ effects := by
  intro preparation effects
  let silent : Turn := { moment with effects := [] }
  have redialsThen : cache.Redials silent.surroundings silent.state flight := redials
  obtain ⟨emptied, advances, environment, -⟩ := redialsThen.exists_beginDial
  have begins : effects = (cache.beginDial emptied flight).effects :=
    (polls.effects_step distinct).trans (congrArg Turn.effects advances)
  have prepared : preparation =
      cache.prepare emptied.surroundings.environment flight.lookup.authorizer := by
    rw [environment]
    exact congrArg (cache.prepare · flight.lookup.authorizer) polls.environment_eq.symm
  rw [begins, prepared]
  cases outcome : (cache.prepare emptied.surroundings.environment
      flight.lookup.authorizer).outcome with
  | ok config =>
      refine Or.inl ⟨config, rfl, ?_⟩
      rw [beginDial_of_ok outcome]
      apply effects_subset_awaitDial
      exact List.mem_concat_self
  | error error =>
      refine Or.inr ⟨error, rfl, ?_⟩
      rw [beginDial_of_error outcome]
      exact List.mem_concat_self

/-! ## What is asked in a whole run -/

/-- All that a lookup has asked belongs to one preparation of a dial, and if the lookup has
dialed then with the configuration that has been prepared. -/
def Inquired
    (cache : Cache)
    (answers : Ticket → Authorizer)
    (effects : List Effect)
    (ticket : Ticket) : Prop :=
  (questionsOf effects ticket = [] ∧ ¬HasDialed effects ticket) ∨
    ∃ environment,
      questionsOf effects ticket = (cache.prepare environment (answers ticket)).questions ∧
        ∀ endpoint config, .dialed ticket endpoint config ∈ effects →
          (cache.prepare environment (answers ticket)).outcome = .ok config

theorem inquired_nil
    (cache : Cache)
    (answers : Ticket → Authorizer)
    (ticket : Ticket) :
    cache.Inquired answers [] ticket := by
  refine Or.inl ⟨rfl, ?_⟩
  rintro ⟨endpoint, config, member⟩
  exact absurd member List.not_mem_nil

theorem Inquired.of_eq
    {answers : Ticket → Authorizer}
    {effects more : List Effect}
    {ticket : Ticket}
    (inquired : cache.Inquired answers effects ticket)
    (questions : questionsOf more ticket = questionsOf effects ticket)
    (dialed : ∀ endpoint config, .dialed ticket endpoint config ∈ more →
      .dialed ticket endpoint config ∈ effects) :
    cache.Inquired answers more ticket := by
  rcases inquired with ⟨silent, undialed⟩ | ⟨environment, asked, prepared⟩
  · refine Or.inl ⟨questions.trans silent, ?_⟩
    rintro ⟨endpoint, config, member⟩
    exact undialed ⟨endpoint, config, dialed endpoint config member⟩
  · refine Or.inr ⟨environment, questions.trans asked, ?_⟩
    intro endpoint config member
    exact prepared endpoint config (dialed endpoint config member)

/-- A poll of a lookup keeps to one preparation. -/
theorem Reached.inquired_advance
    {answers : Ticket → Authorizer}
    (reached : Reached cache span now turn)
    {flight : Flight}
    (member : flight ∈ turn.state.flights)
    (authorizer : flight.lookup.authorizer = answers flight.ticket)
    (inquired : ∀ ticket, cache.Inquired answers turn.effects ticket) :
    ∀ ticket, cache.Inquired answers (cache.advance turn flight).effects ticket := by
  intro ticket
  have dialed : ∀ endpoint config,
      .dialed ticket endpoint config ∈ (cache.advance turn flight).effects →
        .dialed ticket endpoint config ∈ turn.effects ∨
          ticket = flight.ticket ∧ cache.Redials turn.surroundings turn.state flight ∧
            (cache.prepare turn.surroundings.environment
              flight.lookup.authorizer).outcome = .ok config := by
    intro endpoint config begun
    rcases grounds_advance begun with earlier | ⟨own, -, redials, prepared⟩
    · exact Or.inl earlier
    · exact Or.inr ⟨own, redials, prepared⟩
  by_cases redials : cache.Redials turn.surroundings turn.state flight
  · have asks := redials.questionsOf_advance
    by_cases own : ticket = flight.ticket
    · subst own
      -- A lookup that has asked or dialed before would be dialing.
      have idle := Flight.isDialing_ne_true_of_waiting redials.enters.waiting
      have silent : questionsOf turn.effects flight.ticket = [] := by
        apply questionsOf_eq_nil
        intro question consulted
        exact idle ((reached.asked _ question consulted).2 flight member rfl)
      refine Or.inr ⟨turn.surroundings.environment, ?_, ?_⟩
      · rw [asks, silent, if_pos rfl, authorizer]
        rfl
      · intro endpoint config begun
        rcases dialed endpoint config begun with earlier | ⟨-, -, prepared⟩
        · have before := (reached.deeds.dialed _ ⟨endpoint, config, earlier⟩).2
          exact absurd (before flight member rfl) idle
        · rw [← authorizer]
          exact prepared
    · apply (inquired ticket).of_eq
      · rw [asks, if_neg own, List.append_nil]
      · intro endpoint config begun
        exact (dialed endpoint config begun).resolve_right fun other => own other.1
  · apply (inquired ticket).of_eq (questionsOf_advance_of_not_redials redials ticket)
    intro endpoint config begun
    exact (dialed endpoint config begun).resolve_right fun other => redials other.2.1

/-- Every event keeps to one preparation for each lookup. -/
theorem Reached.inquired_next
    {answers : Ticket → Authorizer}
    (reached : Reached cache span now turn)
    {event : Event}
    (belongs : ∀ lookup, event = .start lookup →
      lookup.ticket ∉ turn.surroundings.started →
        span lookup.ticket = some ⟨cache.family.resolve lookup.address, now⟩)
    (authorizers : ∀ moment flight, cache.Polls turn event moment flight →
      flight.lookup.authorizer = answers flight.ticket)
    (inquired : ∀ ticket, cache.Inquired answers turn.effects ticket) :
    ∀ ticket, cache.Inquired answers (cache.next turn event).effects ticket := by
  have silent : ∀ {effect : Effect}, (∀ ticket, effect.questionOf? ticket = none) →
      effect.isIdle = true → ∀ ticket,
        cache.Inquired answers (turn.effects ++ [effect]) ticket := by
    intro effect asksNothing idle ticket
    apply (inquired ticket).of_eq
    · rw [questionsOf_append]
      simp [questionsOf, asksNothing]
    · intro endpoint config member
      rw [List.mem_append, List.mem_singleton] at member
      rcases member with earlier | rfl
      · exact earlier
      · cases idle
  cases event with
  | start lookup =>
      by_cases known : lookup.ticket ∈ turn.surroundings.started
      · rw [next_start_of_mem known]
        exact inquired
      · cases fired : turn.surroundings.hasFired lookup.token? with
        | true =>
            rw [next_start_of_fired known fired]
            exact silent (fun _ => rfl) rfl
        | false =>
            have polls : cache.Polls turn (.start lookup) _ _ := .first known fired
            rw [next_start_of_unfired known fired]
            exact (polls.reached reached belongs).inquired_advance polls.mem_flights
              (authorizers _ _ polls) inquired
  | poll ticket =>
      cases found : turn.state.flight? ticket with
      | none =>
          rw [next_poll_of_none found]
          exact inquired
      | some flight =>
          obtain ⟨member, rfl⟩ := CacheState.flight?_eq_some found
          rw [next_poll_of_some found]
          exact reached.inquired_advance member (authorizers _ _ (.again member)) inquired
  | drop ticket =>
      cases found : turn.state.flight? ticket with
      | none =>
          rw [next_drop_of_none found]
          exact inquired
      | some flight =>
          rw [next_drop_of_some found]
          exact inquired
  | clear => exact silent (fun _ => rfl) rfl
  | change change =>
      rw [next_change]
      exact inquired

end Cache
end Switchboard
