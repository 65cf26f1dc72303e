import Switchboard.Proofs.Client.View

/-!
# Lookups and their families

A client never mixes its families: a lookup is under way in the cache of the family in which
it was started first, and whatever is done for it is done by that cache.  Hence every effect
is done by one cache at one event, in the surroundings that the event has found.
-/

namespace Switchboard

/-- Whoever has an effect at an event is under way before, or is started then. -/
theorem Cache.mem_inFlight_or_start_of_mem_step
    {cache : Cache}
    {turn : Turn}
    {event : Event}
    {effect : Effect}
    {ticket : Ticket}
    (member : effect ∈ (cache.step turn.surroundings turn.state event).effects)
    (named : effect.ticket? = some ticket) :
    (event = .poll ticket ∧ ticket ∈ turn.state.inFlight) ∨
      ∃ lookup, event = .start lookup ∧ lookup.ticket = ticket ∧
        ticket ∉ turn.surroundings.started := by
  rcases grounds_step member with
    ⟨moment, flight, polls, grounds⟩ | ⟨lookup, rfl, -, rfl⟩ | ⟨notice, rfl⟩
  · have own : ticket = flight.ticket := by
      cases effect with
      | notice notice => cases named
      | consulted other question => exact (Option.some.inj named).symm.trans grounds.1
      | dialed other endpoint config => exact (Option.some.inj named).symm.trans grounds.1
      | closed other connection endpoint state =>
          exact (Option.some.inj named).symm.trans grounds.1
      | returned other outcome => exact (Option.some.inj named).symm.trans grounds.1
    cases polls with
    | again flies =>
        subst own
        exact Or.inl ⟨rfl, List.mem_map_of_mem flies⟩
    | @first lookup new unfired =>
        rw [CacheState.board_snd] at own
        change ticket = lookup.ticket at own
        exact Or.inr ⟨lookup, rfl, own.symm, own ▸ new⟩
  · refine Or.inr ⟨lookup, rfl, Option.some.inj named, ?_⟩
    obtain rfl : lookup.ticket = ticket := Option.some.inj named
    intro known
    have contained : turn.surroundings.started.contains lookup.ticket = true := by
      simpa using known
    rw [step, start, if_pos contained] at member
    exact absurd member List.not_mem_nil
  · cases named

namespace Client

open Cache History Trace

variable {client : Client} {family : Family}

/-! ## Belonging -/

/-- A cache has to do only with the lookups of its family, and they are asked for with the
client's authorizer. -/
structure Housed
    (client : Client)
    (family : Family)
    (events : List ClientEvent)
    (turn : Turn) : Prop where
  lookups : ∀ lookup ∈ turn.state.lookups,
    familyOf? events lookup.ticket = some family ∧
      lookup.authorizer = client.authorizer lookup.ticket
  effects : ∀ effect ∈ turn.effects, ∀ ticket, effect.ticket? = some ticket →
    familyOf? events ticket = some family

theorem familyOf?_append_of_some
    {past : List ClientEvent}
    {ticket : Ticket}
    (known : familyOf? past ticket = some family)
    (future : List ClientEvent) :
    familyOf? (past ++ future) ticket = some family := by
  rw [familyOf?, List.findSome?_append]
  rw [familyOf?] at known
  rw [known, Option.some_or]

theorem Housed.append
    {past : List ClientEvent}
    {turn : Turn}
    (housed : client.Housed family past turn)
    (future : List ClientEvent) :
    client.Housed family (past ++ future) turn where
  lookups := fun lookup member =>
    (housed.lookups lookup member).imp_left (familyOf?_append_of_some · future)
  effects := fun effect member ticket named =>
    familyOf?_append_of_some (housed.effects effect member ticket named) future

/-- A lookup that is polled asks the client's authorizer. -/
theorem Housed.authorizer_eq
    {events : List ClientEvent}
    {turn moment : Turn}
    {event : ClientEvent}
    {step : Event}
    {flight : Flight}
    (housed : client.Housed family events turn)
    (found : client.at? family event = some step)
    (polls : (client.cacheOf family).Polls turn step moment flight) :
    flight.lookup.authorizer = client.authorizer flight.ticket := by
  cases polls with
  | again member => exact (housed.lookups _ (List.mem_map_of_mem member)).2
  | first new unfired =>
      rw [CacheState.board_snd]
      exact (at?_eq_start found).2

/-- A lookup that a client starts next belongs to the family in which it is started. -/
theorem familyOf?_of_at?
    {surroundings : Surroundings}
    {past : List ClientEvent}
    {event : ClientEvent}
    {lookup : Lookup}
    (found : client.at? family event = some (.start lookup))
    (new : lookup.ticket ∉ (client.after surroundings past).surroundings.started) :
    familyOf? (past ++ [event]) lookup.ticket = some family := by
  have unknown : past.findSome? (·.familyOf? lookup.ticket) = none := by
    by_contra known
    exact new (mem_started_of_familyOf? client surroundings
      (Option.isSome_iff_ne_none.mpr known))
  obtain ⟨rfl, -⟩ := at?_eq_start found
  rw [familyOf?, List.findSome?_append, unknown, Option.none_or, List.findSome?_singleton,
    ClientEvent.familyOf?, if_pos rfl]

/-- After every history both caches have to do only with the lookups of their families. -/
theorem housed_after
    (client : Client)
    (surroundings : Surroundings)
    (events : List ClientEvent)
    (family : Family) :
    client.Housed family events ((client.after surroundings events).view family) := by
  induction events using List.reverseRecOn with
  | nil =>
      have lookups : ((client.after surroundings []).view family).state.lookups = [] := by
        cases family <;> rfl
      constructor
      · intro lookup member
        rw [lookups] at member
        exact absurd member List.not_mem_nil
      · intro effect member
        exact absurd member List.not_mem_nil
  | append_singleton past event inductionHypothesis =>
      have housed := inductionHypothesis.append [event]
      cases found : client.at? family event with
      | none =>
          rw [after_concat, (view_next_of_none _ found).1]
          exact ⟨housed.lookups, housed.effects⟩
      | some step =>
          obtain ⟨before, after, grown, reached, belongs, same⟩ :=
            client.exists_reached_of_at? surroundings past found
          have started : ∀ lookup, step = .start lookup → lookup.ticket ∉ before.started →
              familyOf? (past ++ [event]) lookup.ticket = some family ∧
                lookup.authorizer = client.authorizer lookup.ticket := by
            rintro lookup rfl new
            exact ⟨familyOf?_of_at? found fun known => new (grown known),
              (at?_eq_start found).2⟩
          rw [same]
          constructor
          · intro lookup member
            rcases reached.lookups_next step belongs with
              fewer | ⟨newcomer, starts, new, more⟩
            · exact housed.lookups lookup (fewer.subset member)
            · have either := more.subset member
              rw [List.mem_append, List.mem_singleton] at either
              rcases either with old | rfl
              · exact housed.lookups lookup old
              · exact started lookup starts new
          · intro effect member ticket named
            rcases List.mem_append.mp member with earlier | done
            · exact housed.effects effect earlier ticket named
            · rcases mem_inFlight_or_start_of_mem_step done named with
                ⟨-, flies⟩ | ⟨lookup, starts, rfl, new⟩
              · rw [CacheState.inFlight_eq_lookups, List.mem_map] at flies
                obtain ⟨lookup, lookupMember, rfl⟩ := flies
                exact (housed.lookups lookup lookupMember).1
              · exact (started lookup starts new).1

/-! ## What is done at an event -/

/-- The cache of a family does something at an event. -/
def Does
    (client : Client)
    (turn : ClientTurn)
    (event : ClientEvent)
    (family : Family)
    (effect : Effect) : Prop :=
  (family, effect) ∈ (client.next ⟨turn.surroundings, turn.state, []⟩ event).effects

theorem mem_effects_stepOne
    {turn : ClientTurn}
    {event : Event}
    {other : Family}
    {effect : Effect} :
    (family, effect) ∈ (client.stepOne other turn event).effects ↔
      (family, effect) ∈ turn.effects ∨ other = family ∧
        effect ∈ ((client.cacheOf other).step turn.surroundings
          (turn.state.of other) event).effects := by
  simp [stepOne, and_comm]

/-- What has been done after an event has been done before or is done at the event. -/
theorem effects_next
    (client : Client)
    (turn : ClientTurn)
    (event : ClientEvent) :
    (client.next turn event).effects =
      turn.effects ++ (client.next ⟨turn.surroundings, turn.state, []⟩ event).effects := by
  have both : ∀ step, (client.stepBoth turn step).effects =
      turn.effects ++
        (client.stepBoth ⟨turn.surroundings, turn.state, []⟩ step).effects := by
    intro step
    simp [stepBoth, stepOne]
  cases event with
  | start family ticket address token? => rfl
  | poll ticket => exact both _
  | drop ticket => exact both _
  | clearOne family => rfl
  | clear => exact both _
  | change change => exact (List.append_nil _).symm

/-- Everything that has been done has been done at an event. -/
theorem exists_does
    (client : Client)
    (surroundings : Surroundings)
    {events : List ClientEvent}
    {family : Family}
    {effect : Effect}
    (member : (family, effect) ∈ (client.after surroundings events).effects) :
    ∃ past event future, events = past ++ event :: future ∧
      client.Does (client.after surroundings past) event family effect := by
  induction events using List.reverseRecOn with
  | nil => exact absurd member List.not_mem_nil
  | append_singleton past event inductionHypothesis =>
      rw [after_concat, effects_next, List.mem_append] at member
      rcases member with earlier | done
      · obtain ⟨before, other, after, rfl, does⟩ := inductionHypothesis earlier
        refine ⟨before, other, after ++ [event], ?_, does⟩
        rw [List.append_assoc, List.cons_append]
      · exact ⟨past, event, [], rfl, done⟩

/-- What has been done at an event counts from then on. -/
theorem mem_effects_of_does
    {surroundings : Surroundings}
    {past : List ClientEvent}
    {event : ClientEvent}
    {effect : Effect}
    (does : client.Does (client.after surroundings past) event family effect)
    (future : List ClientEvent) :
    (family, effect) ∈ (client.after surroundings (past ++ event :: future)).effects := by
  induction future using List.reverseRecOn with
  | nil =>
      rw [after_concat, effects_next]
      exact List.mem_append_right _ does
  | append_singleton before last inductionHypothesis =>
      rw [← List.cons_append, ← List.append_assoc, after_concat, effects_next]
      exact List.mem_append_left _ inductionHypothesis

/-- A poll leaves the surroundings alone where the lookup is not under way. -/
theorem surroundings_stepOne_of_not_mem
    {turn : ClientTurn}
    {ticket : Ticket}
    (absent : ticket ∉ (turn.state.of family).inFlight) :
    (client.stepOne family turn (.poll ticket)).surroundings = turn.surroundings := by
  have missing : (turn.state.of family).flight? ticket = none := by
    rw [CacheState.flight?, List.find?_eq_none]
    intro flight member same
    exact absent (List.mem_map.mpr ⟨flight, member, of_decide_eq_true same⟩)
  change ((client.cacheOf family).poll turn.surroundings (turn.state.of family)
    ticket).surroundings = _
  rw [poll, missing]

/-- Where no lookup is under way in both caches, a cache does for a lookup what it does in the
surroundings that the event has found. -/
theorem mem_effects_stepBoth
    {turn : ClientTurn}
    {event : Event}
    {effect : Effect}
    {ticket : Ticket}
    (apart : ∀ number ∈ turn.state.agents.inFlight,
      number ∉ turn.state.authentication.inFlight)
    (unstarting : ∀ lookup, event ≠ .start lookup)
    (named : effect.ticket? = some ticket) :
    (family, effect) ∈
        (client.stepBoth ⟨turn.surroundings, turn.state, []⟩ event).effects ↔
      effect ∈ ((client.cacheOf family).step turn.surroundings
        (turn.state.of family) event).effects := by
  rw [stepBoth, mem_effects_stepOne, mem_effects_stepOne]
  cases family with
  | agent => simp
  | authentication =>
      -- The cache for agents has come first, and has found nothing to do.
      have unchanged : ∀ surroundings, effect ∈ ((client.cacheOf .authentication).step
          surroundings turn.state.authentication event).effects →
            (client.stepOne .agent ⟨turn.surroundings, turn.state, []⟩ event).surroundings =
              turn.surroundings := by
        intro surroundings done
        let moment : Turn := ⟨surroundings, turn.state.authentication, []⟩
        have doneThen : effect ∈ ((client.cacheOf .authentication).step moment.surroundings
          moment.state event).effects := done
        rcases mem_inFlight_or_start_of_mem_step doneThen named with
          ⟨rfl, flies⟩ | ⟨lookup, starts, -⟩
        · exact surroundings_stepOne_of_not_mem fun inAgents => apart ticket inAgents flies
        · exact absurd starts (unstarting lookup)
      constructor
      · rintro ((nothing | ⟨impossible, -⟩) | ⟨-, done⟩)
        · exact absurd nothing List.not_mem_nil
        · cases impossible
        · rw [unchanged _ done] at done
          exact done
      · intro done
        refine Or.inr ⟨rfl, ?_⟩
        rw [unchanged _ done]
        exact done

theorem does_iff
    {turn : ClientTurn}
    {event : ClientEvent}
    {effect : Effect}
    {ticket : Ticket}
    (apart : ∀ number ∈ turn.state.agents.inFlight,
      number ∉ turn.state.authentication.inFlight)
    (named : effect.ticket? = some ticket) :
    client.Does turn event family effect ↔
      ∃ step, client.at? family event = some step ∧
        effect ∈ ((client.cacheOf family).step turn.surroundings
          (turn.state.of family) step).effects := by
  cases event with
  | start other number address token? =>
      rw [Does, next, mem_effects_stepOne, at?]
      by_cases same : other = family
      · subst same
        simp
      · simp [same]
  | poll number =>
      refine Iff.trans (mem_effects_stepBoth apart (by simp) named) ?_
      simp [at?]
  | drop number =>
      refine Iff.trans (mem_effects_stepBoth apart (by simp) named) ?_
      simp [at?]
  | clearOne other =>
      rw [Does, next, mem_effects_stepOne, at?]
      by_cases same : other = family
      · subst same
        simp
      · simp [same]
  | clear =>
      refine Iff.trans (mem_effects_stepBoth apart (by simp) named) ?_
      simp [at?]
  | change change => simp [Does, next, at?, step]

/-- After every history no lookup is under way in both caches. -/
theorem apart_after
    (client : Client)
    (surroundings : Surroundings)
    (events : List ClientEvent) :
    ∀ number ∈ (client.after surroundings events).state.agents.inFlight,
      number ∉ (client.after surroundings events).state.authentication.inFlight := by
  have housed := client.housed_after surroundings events
  intro number inAgents inAuthentication
  rw [CacheState.inFlight_eq_lookups, List.mem_map] at inAgents inAuthentication
  obtain ⟨left, leftMember, rfl⟩ := inAgents
  obtain ⟨right, rightMember, same⟩ := inAuthentication
  have leftHome := ((housed .agent).lookups left leftMember).1
  have rightHome := ((housed .authentication).lookups right rightMember).1
  rw [same, leftHome] at rightHome
  cases rightHome

/-- After every history all that a lookup has asked belongs to one preparation. -/
theorem inquired_after
    (client : Client)
    (surroundings : Surroundings)
    (events : List ClientEvent)
    (family : Family) :
    ∀ ticket, (client.cacheOf family).Inquired client.authorizer
      ((client.after surroundings events).view family).effects ticket := by
  induction events using List.reverseRecOn with
  | nil => exact inquired_nil _ _
  | append_singleton past event inductionHypothesis =>
      cases found : client.at? family event with
      | none =>
          rw [after_concat, (view_next_of_none _ found).1]
          exact inductionHypothesis
      | some step =>
          obtain ⟨before, after, -, reached, belongs, same⟩ :=
            client.exists_reached_of_at? surroundings past found
          have housed := client.housed_after surroundings past family
          have housedThen : client.Housed family past
              { (client.after surroundings past).view family with surroundings := before } :=
            ⟨housed.lookups, housed.effects⟩
          rw [same]
          exact reached.inquired_next belongs
            (fun moment flight => housedThen.authorizer_eq found) inductionHypothesis

/-! ## Who asks and who dials -/

/-- A lookup is polled at an event that has the lock of its slot, and finds nothing there that
may be handed out. -/
def Redials
    (client : Client)
    (turn : ClientTurn)
    (event : ClientEvent)
    (family : Family)
    (ticket : Ticket) : Prop :=
  ∃ step moment flight,
    client.at? family event = some step ∧
      (client.cacheOf family).Polls (turn.view family) step moment flight ∧
      flight.ticket = ticket ∧
      (client.cacheOf family).Redials moment.surroundings moment.state flight

/-- Only a lookup that finds nothing to hand out asks its authorizer. -/
theorem redials_of_consulted
    {surroundings : Surroundings}
    {past : List ClientEvent}
    {event : ClientEvent}
    {ticket : Ticket}
    {question : Question}
    (asks : client.Does (client.after surroundings past) event family
      (.consulted ticket question)) :
    client.Redials (client.after surroundings past) event family ticket := by
  obtain ⟨step, found, done⟩ := (does_iff (client.apart_after surroundings past) rfl).mp asks
  let turn := (client.after surroundings past).view family
  have doneThere : _ ∈ ((client.cacheOf family).step turn.surroundings turn.state
    step).effects := done
  rcases grounds_step doneThere with
    ⟨moment, flight, polls, rfl, redials⟩ | ⟨lookup, -, -, impossible⟩ | ⟨notice, impossible⟩
  · exact ⟨step, moment, flight, found, polls, rfl, redials⟩
  · cases impossible
  · cases impossible

/-- A lookup that finds nothing to hand out asks at this event whatever its preparation asks. -/
theorem asks_of_redials
    {surroundings : Surroundings}
    {past : List ClientEvent}
    {event : ClientEvent}
    {ticket : Ticket}
    (redials : client.Redials (client.after surroundings past) event family ticket) :
    ∀ question ∈ ((client.cacheOf family).prepare
        (client.after surroundings past).surroundings.environment
          (client.authorizer ticket)).questions,
      client.Does (client.after surroundings past) event family
        (.consulted ticket question) := by
  obtain ⟨step, moment, flight, found, polls, rfl, redialsThere⟩ := redials
  have reached := client.reached_view surroundings past [] family
  have authorizer := (client.housed_after surroundings past family).authorizer_eq found polls
  have asks := polls.questionsOf_step reached.queued.distinct redialsThere
  rw [authorizer] at asks
  let turn := (client.after surroundings past).view family
  intro question member
  apply (does_iff (client.apart_after surroundings past) rfl).mpr
  refine ⟨step, found, mem_questionsOf.mp ?_⟩
  change question ∈ questionsOf ((client.cacheOf family).step turn.surroundings turn.state
    step).effects _
  rw [asks]
  exact member

/-- A lookup dials as its dial is prepared at this event, and whatever the preparation asks is
asked at this event. -/
theorem prepared_of_dialed
    {surroundings : Surroundings}
    {past : List ClientEvent}
    {event : ClientEvent}
    {ticket : Ticket}
    {endpoint : String}
    {config : DialConfig}
    (dials : client.Does (client.after surroundings past) event family
      (.dialed ticket endpoint config)) :
    let preparation := (client.cacheOf family).prepare
      (client.after surroundings past).surroundings.environment (client.authorizer ticket)
    preparation.outcome = .ok config ∧
      ∀ question ∈ preparation.questions,
        client.Does (client.after surroundings past) event family
          (.consulted ticket question) := by
  obtain ⟨step, found, done⟩ := (does_iff (client.apart_after surroundings past) rfl).mp dials
  let turn := (client.after surroundings past).view family
  have doneThere : _ ∈ ((client.cacheOf family).step turn.surroundings turn.state
    step).effects := done
  rcases grounds_step doneThere with
    ⟨moment, flight, polls, rfl, rfl, redials, prepared⟩ | ⟨lookup, -, -, impossible⟩ |
      ⟨notice, impossible⟩
  · have authorizer := (client.housed_after surroundings past family).authorizer_eq found polls
    rw [polls.environment_eq, authorizer] at prepared
    exact ⟨prepared, asks_of_redials ⟨step, moment, flight, found, polls, rfl, redials⟩⟩
  · cases impossible
  · cases impossible

/-- A lookup that finds nothing to hand out dials as its dial is prepared, or ends with the
refusal. -/
theorem dials_or_refuses
    {surroundings : Surroundings}
    {past : List ClientEvent}
    {event : ClientEvent}
    {ticket : Ticket}
    (redials : client.Redials (client.after surroundings past) event family ticket) :
    let preparation := (client.cacheOf family).prepare
      (client.after surroundings past).surroundings.environment (client.authorizer ticket)
    (∃ config, preparation.outcome = .ok config ∧
        ∃ endpoint, client.Does (client.after surroundings past) event family
          (.dialed ticket endpoint config)) ∨
      ∃ error, preparation.outcome = .error error ∧
        client.Does (client.after surroundings past) event family
          (.returned ticket (.error error)) := by
  obtain ⟨step, moment, flight, found, polls, rfl, redialsThere⟩ := redials
  have apart := client.apart_after surroundings past
  have reached := client.reached_view surroundings past [] family
  have authorizer := (client.housed_after surroundings past family).authorizer_eq found polls
  have does := polls.dials_or_refuses reached.queued.distinct redialsThere
  rw [authorizer] at does
  rcases does with ⟨config, prepared, dials⟩ | ⟨error, refused, returns⟩
  · exact Or.inl ⟨config, prepared, flight.endpoint,
      (does_iff apart rfl).mpr ⟨step, found, dials⟩⟩
  · exact Or.inr ⟨error, refused, (does_iff apart rfl).mpr ⟨step, found, returns⟩⟩

/-! ## Whose lookups are asked for -/

/-- All that is asked for a lookup in a history, in order. -/
def questionsFor
    (client : Client)
    (surroundings : Surroundings)
    (events : List ClientEvent)
    (ticket : Ticket) : List Question :=
  questionsOf ((client.after surroundings events).effects.map (·.2)) ticket

/-- Where one cache only has to do with a lookup, it asks all that is asked for it. -/
theorem questionsOf_effectsIn
    {effects : List (Family × Effect)}
    {home : Family}
    {ticket : Ticket}
    (belongs : ∀ family effect, (family, effect) ∈ effects →
      effect.ticket? = some ticket → family = home) :
    questionsOf (effectsIn effects home) ticket = questionsOf (effects.map (·.2)) ticket := by
  rw [questionsOf, questionsOf, effectsIn, List.filterMap_map, List.filterMap_filterMap]
  apply List.filterMap_congr
  rintro ⟨family, effect⟩ member
  by_cases here : family = home
  · simp [here]
  · have silent : effect.questionOf? ticket = none := by
      rw [Option.eq_none_iff_forall_not_mem]
      intro question asks
      exact here (belongs family effect member (Effect.ticket?_of_questionOf? asks))
    simp [here, silent]

/-- Every lookup has one cache that may have to do with it. -/
theorem exists_home
    (client : Client)
    (surroundings : Surroundings)
    (events : List ClientEvent)
    (ticket : Ticket) :
    ∃ home, ∀ family effect, (family, effect) ∈ (client.after surroundings events).effects →
      effect.ticket? = some ticket → family = home := by
  have housed : ∀ family effect,
      (family, effect) ∈ (client.after surroundings events).effects →
        effect.ticket? = some ticket → familyOf? events ticket = some family := by
    intro family effect member named
    apply (client.housed_after surroundings events family).effects effect _ ticket named
    exact List.mem_filterMap.mpr ⟨_, member, if_pos rfl⟩
  refine ⟨(familyOf? events ticket).getD .agent, ?_⟩
  intro family effect member named
  rw [housed family effect member named, Option.getD_some]

end Client
end Switchboard
