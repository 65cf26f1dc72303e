import Switchboard.Proofs.Cache.Reached

/-!
# Grounds for effects

Every effect of a poll has its grounds in the turn before the poll.  Only a lookup that
has the lock of its slot asks, closes, dials or hands out what is there; a connection is
closed in a state in which the policy does not allow it to be handed out, and handed out
in one in which the policy does.
-/

namespace Switchboard
namespace Cache

/-- The moments at which an event polls a lookup. -/
inductive Polls (cache : Cache) (turn : Turn) : Event → Turn → Flight → Prop
  /-- A lookup under way is polled again. -/
  | again
      {flight : Flight}
      (member : flight ∈ turn.state.flights) :
      Polls cache turn (.poll flight.ticket) turn flight
  /-- A lookup that is started has boarded and is polled for the first time. -/
  | first
      {lookup : Lookup}
      (new : lookup.ticket ∉ turn.surroundings.started)
      (unfired : turn.surroundings.hasFired lookup.token? = false) :
      Polls cache turn (.start lookup)
        (turn.board lookup (cache.family.resolve lookup.address))
        (turn.state.board lookup (cache.family.resolve lookup.address)).2

/-- A lookup that is polled has its turn at its slot: its token has not fired, and it
waits no longer for the lock. -/
structure Enters
    (surroundings : Surroundings)
    (state : CacheState)
    (flight : Flight) : Prop where
  unfired : surroundings.hasFired flight.lookup.token? = false
  waiting : flight.phase = .queued
  owns : (state.slotAt flight.slot).lock.owner? = some flight.ticket

/-- A lookup that has its turn finds nothing in its slot that may be handed out. -/
structure Redials
    (cache : Cache)
    (surroundings : Surroundings)
    (state : CacheState)
    (flight : Flight) : Prop where
  enters : Enters surroundings state flight
  lacks : ∀ connection, (state.slotAt flight.slot).connection? = some connection →
    cache.policy.reusable (surroundings.stateOf connection) = false

/-- A lookup that is polled looks how its dial with a configuration stands, which it may
have begun at this poll. -/
def Awaits
    (cache : Cache)
    (surroundings : Surroundings)
    (state : CacheState)
    (flight : Flight)
    (config : DialConfig) : Prop :=
  flight.phase = .dialing config ∨
    cache.Redials surroundings state flight ∧
      (cache.prepare surroundings.environment
        flight.lookup.authorizer).outcome = .ok config

/-- Why a lookup ends at a poll. -/
def Ends
    (cache : Cache)
    (surroundings : Surroundings)
    (state : CacheState)
    (flight : Flight) : Outcome → Prop
  | .ok connection =>
      (connection = flight.ticket ∧
        ∃ config state?, cache.Awaits surroundings state flight config ∧
          surroundings.answer flight.endpoint config = .connected state?) ∨
      (Enters surroundings state flight ∧
        (state.slotAt flight.slot).connection? = some connection ∧
        cache.policy.reusable (surroundings.stateOf connection) = true)
  | .error error =>
      (surroundings.hasFired flight.lookup.token? = true ∧
        error = .cancelled flight.endpoint) ∨
      (cache.Redials surroundings state flight ∧
        (cache.prepare surroundings.environment
          flight.lookup.authorizer).outcome = .error error) ∨
      (∃ config, cache.Awaits surroundings state flight config ∧
        surroundings.answer flight.endpoint config = .failed error)

/-- Why a poll of a lookup has an effect. -/
def Grounds
    (cache : Cache)
    (surroundings : Surroundings)
    (state : CacheState)
    (flight : Flight) : Effect → Prop
  | .notice _ => True
  | .consulted ticket _ =>
      ticket = flight.ticket ∧ cache.Redials surroundings state flight
  | .dialed ticket endpoint config =>
      ticket = flight.ticket ∧ endpoint = flight.endpoint ∧
        cache.Redials surroundings state flight ∧
        (cache.prepare surroundings.environment
          flight.lookup.authorizer).outcome = .ok config
  | .closed ticket connection endpoint reported =>
      ticket = flight.ticket ∧ endpoint = flight.endpoint ∧
        Enters surroundings state flight ∧
        (state.slotAt flight.slot).connection? = some connection ∧
        reported = surroundings.stateOf connection ∧
        cache.policy.reusable reported = false
  | .returned ticket outcome =>
      ticket = flight.ticket ∧ cache.Ends surroundings state flight outcome

variable {cache : Cache} {turn : Turn} {flight : Flight}

/-- What is done when a lookup ends. -/
theorem mem_effects_finish
    {outcome : Outcome}
    {effect : Effect} :
    effect ∈ (turn.finish flight outcome).effects ↔
      effect ∈ turn.effects ∨ effect = .returned flight.ticket outcome := by
  simp [Turn.finish, Turn.record]

theorem mem_effects_consult
    {effect : Effect}
    (member : effect ∈ (cache.consult turn flight).effects) :
    effect ∈ turn.effects ∨ (∃ question, effect = .consulted flight.ticket question) ∨
      ∃ notice, effect = .notice notice := by
  simp only [consult, Turn.record, List.mem_append, List.mem_map] at member
  rcases member with old | ⟨question, -, rfl⟩ | ⟨notice, -, rfl⟩
  · exact Or.inl old
  · exact Or.inr (Or.inl ⟨question, rfl⟩)
  · exact Or.inr (Or.inr ⟨notice, rfl⟩)

theorem mem_effects_awaitDial
    {config : DialConfig}
    {effect : Effect}
    (member : effect ∈ (awaitDial turn flight config).effects) :
    effect ∈ turn.effects ∨ (∃ notice, effect = .notice notice) ∨
      (∃ error, effect = .returned flight.ticket (.error error) ∧
        turn.surroundings.answer flight.endpoint config = .failed error) ∨
      (effect = .returned flight.ticket (.ok flight.ticket) ∧
        ∃ state?, turn.surroundings.answer flight.endpoint config =
          .connected state?) := by
  cases answer : turn.surroundings.answer flight.endpoint config with
  | pending =>
      rw [awaitDial_of_pending answer] at member
      exact Or.inl member
  | failed error =>
      rw [awaitDial_of_failed answer, mem_effects_finish] at member
      rcases member with old | rfl
      · exact Or.inl old
      · exact Or.inr (Or.inr (Or.inl ⟨error, rfl, rfl⟩))
  | connected state? =>
      rw [awaitDial_of_connected answer, establish, mem_effects_finish] at member
      rcases member with old | rfl
      · simp only [Turn.record, List.mem_append, List.mem_singleton] at old
        rcases old with older | rfl
        · exact Or.inl older
        · exact Or.inr (Or.inl ⟨_, rfl⟩)
      · exact Or.inr (Or.inr (Or.inr ⟨rfl, state?, rfl⟩))

theorem mem_effects_beginDial
    {effect : Effect}
    (member : effect ∈ (cache.beginDial turn flight).effects) :
    effect ∈ turn.effects ∨ (∃ question, effect = .consulted flight.ticket question) ∨
      (∃ notice, effect = .notice notice) ∨
      (∃ error, effect = .returned flight.ticket (.error error) ∧
        (cache.prepare turn.surroundings.environment
          flight.lookup.authorizer).outcome = .error error) ∨
      ∃ config,
        (cache.prepare turn.surroundings.environment
          flight.lookup.authorizer).outcome = .ok config ∧
        (effect = .dialed flight.ticket flight.endpoint config ∨
          (∃ error, effect = .returned flight.ticket (.error error) ∧
            turn.surroundings.answer flight.endpoint config = .failed error) ∨
          (effect = .returned flight.ticket (.ok flight.ticket) ∧
            ∃ state?, turn.surroundings.answer flight.endpoint config =
              .connected state?)) := by
  cases outcome : (cache.prepare turn.surroundings.environment
      flight.lookup.authorizer).outcome with
  | error error =>
      rw [beginDial_of_error outcome, mem_effects_finish] at member
      rcases member with asked | rfl
      · rcases mem_effects_consult asked with old | asks | notes
        · exact Or.inl old
        · exact Or.inr (Or.inl asks)
        · exact Or.inr (Or.inr (Or.inl notes))
      · exact Or.inr (Or.inr (Or.inr (Or.inl ⟨error, rfl, rfl⟩)))
  | ok config =>
      rw [beginDial_of_ok outcome] at member
      rcases mem_effects_awaitDial member with begun | notes | failed | connected
      · simp only [dial, Turn.record, List.mem_append, List.mem_singleton] at begun
        rcases begun with asked | rfl
        · rcases mem_effects_consult asked with old | asks | notes
          · exact Or.inl old
          · exact Or.inr (Or.inl asks)
          · exact Or.inr (Or.inr (Or.inl notes))
        · exact Or.inr (Or.inr (Or.inr (Or.inr ⟨config, rfl, Or.inl rfl⟩)))
      · exact Or.inr (Or.inr (Or.inl notes))
      · exact Or.inr (Or.inr (Or.inr (Or.inr ⟨config, rfl, Or.inr (Or.inl failed)⟩)))
      · exact Or.inr (Or.inr (Or.inr (Or.inr ⟨config, rfl, Or.inr (Or.inr connected)⟩)))

/-- What a lookup does at an empty slot, which it may have emptied itself. -/
theorem grounds_beginDial
    {emptied : Turn}
    (redials : cache.Redials turn.surroundings turn.state flight)
    (environment :
      emptied.surroundings.environment = turn.surroundings.environment)
    (answer : emptied.surroundings.answer = turn.surroundings.answer)
    {effect : Effect}
    (member : effect ∈ (cache.beginDial emptied flight).effects) :
    effect ∈ emptied.effects ∨ cache.Grounds turn.surroundings turn.state flight effect := by
  have done := mem_effects_beginDial member
  rw [environment, answer] at done
  rcases done with
    old | ⟨question, rfl⟩ | ⟨notice, rfl⟩ | ⟨error, rfl, refused⟩ | ⟨config, prepared, rest⟩
  · exact Or.inl old
  · exact Or.inr ⟨rfl, redials⟩
  · exact Or.inr trivial
  · exact Or.inr ⟨rfl, Or.inr (Or.inl ⟨redials, refused⟩)⟩
  · rcases rest with rfl | ⟨error, rfl, failed⟩ | ⟨rfl, state?, connected⟩
    · exact Or.inr ⟨rfl, rfl, redials, prepared⟩
    · exact Or.inr ⟨rfl, Or.inr (Or.inr ⟨config, Or.inr ⟨redials, prepared⟩, failed⟩)⟩
    · exact Or.inr ⟨rfl, Or.inl
        ⟨rfl, config, state?, Or.inr ⟨redials, prepared⟩, connected⟩⟩

/-- Every effect of a lookup that has its turn has its grounds. -/
theorem grounds_enter
    (enters : Enters turn.surroundings turn.state flight)
    {effect : Effect}
    (member : effect ∈ (cache.enter turn flight).effects) :
    effect ∈ turn.effects ∨ cache.Grounds turn.surroundings turn.state flight effect := by
  unfold enter at member
  cases held : (turn.state.slotAt flight.slot).connection? with
  | none =>
      rw [held] at member
      have redials : cache.Redials turn.surroundings turn.state flight := by
        refine ⟨enters, fun connection found => ?_⟩
        rw [held] at found
        cases found
      exact grounds_beginDial redials rfl rfl member
  | some connection =>
      rw [held] at member
      dsimp only at member
      split at member
      · next reusable =>
          rw [mem_effects_finish] at member
          rcases member with noted | rfl
          · simp only [Turn.record, List.mem_append, List.mem_singleton] at noted
            rcases noted with old | rfl
            · exact Or.inl old
            · exact Or.inr trivial
          · exact Or.inr ⟨rfl, Or.inr ⟨enters, held, reusable⟩⟩
      · next stale =>
          have redials : cache.Redials turn.surroundings turn.state flight := by
            refine ⟨enters, fun other found => ?_⟩
            rw [held, Option.some.injEq] at found
            rw [← found]
            exact Bool.eq_false_iff.mpr stale
          have environment : (evict turn flight connection).surroundings.environment =
              turn.surroundings.environment := rfl
          rcases grounds_beginDial redials environment rfl member with begun | grounds
          · simp only [evict, Turn.record, List.mem_append, List.mem_cons,
              List.not_mem_nil, or_false] at begun
            rcases begun with old | rfl | rfl
            · exact Or.inl old
            · exact Or.inr trivial
            · exact Or.inr ⟨rfl, rfl, enters, held, rfl, Bool.eq_false_iff.mpr stale⟩
          · exact Or.inr grounds

/-- Every effect of a poll has its grounds. -/
theorem grounds_advance
    {effect : Effect}
    (member : effect ∈ (cache.advance turn flight).effects) :
    effect ∈ turn.effects ∨ cache.Grounds turn.surroundings turn.state flight effect := by
  unfold advance at member
  split at member
  · next fired =>
      rw [mem_effects_finish] at member
      rcases member with old | rfl
      · exact Or.inl old
      · exact Or.inr ⟨rfl, Or.inl ⟨fired, rfl⟩⟩
  · next unfired =>
      cases phase : flight.phase with
      | dialing config =>
          rw [phase] at member
          have awaits : cache.Awaits turn.surroundings turn.state flight config := Or.inl phase
          rcases mem_effects_awaitDial member with
            old | ⟨notice, rfl⟩ | ⟨error, rfl, failed⟩ | ⟨rfl, state?, connected⟩
          · exact Or.inl old
          · exact Or.inr trivial
          · exact Or.inr ⟨rfl, Or.inr (Or.inr ⟨config, awaits, failed⟩)⟩
          · exact Or.inr ⟨rfl, Or.inl ⟨rfl, config, state?, awaits, connected⟩⟩
      | queued =>
          rw [phase] at member
          dsimp only at member
          split at member
          · next owns =>
              exact grounds_enter ⟨Bool.eq_false_iff.mpr unfired, phase, owns⟩ member
          · exact Or.inl member

/-- A lookup that is polled is under way. -/
theorem Polls.mem_flights
    {event : Event}
    {moment : Turn}
    (polls : cache.Polls turn event moment flight) :
    flight ∈ moment.state.flights := by
  cases polls with
  | again member => exact member
  | first new unfired => exact turn.state.mem_flights_board _ _

/-- The moments of polls are reached. -/
theorem Polls.reached
    {span : Ticket → Option LookupSpan}
    {now : Nat}
    {event : Event}
    {moment : Turn}
    (polls : cache.Polls turn event moment flight)
    (reached : Reached cache span now turn)
    (belongs : ∀ lookup, event = .start lookup →
      lookup.ticket ∉ turn.surroundings.started →
        span lookup.ticket = some ⟨cache.family.resolve lookup.address, now⟩) :
    Reached cache span now moment := by
  cases polls with
  | again member => exact reached
  | first new unfired => exact .board reached new (belongs _ rfl new)

/-- A poll finds what was around before the event, but for the numbers that have been given. -/
theorem Polls.surroundings_eq
    {event : Event}
    {moment : Turn}
    (polls : cache.Polls turn event moment flight) :
    moment.surroundings =
      { turn.surroundings with started := moment.surroundings.started } := by
  cases polls with
  | again member => rfl
  | first new unfired => rfl

theorem Polls.environment_eq
    {event : Event}
    {moment : Turn}
    (polls : cache.Polls turn event moment flight) :
    moment.surroundings.environment = turn.surroundings.environment := by
  rw [polls.surroundings_eq]

/-- An event that polls a lookup does what the poll does. -/
theorem Polls.effects_step
    {event : Event}
    {moment : Turn}
    (polls : cache.Polls turn event moment flight)
    (distinct : turn.state.inFlight.Nodup) :
    (cache.step turn.surroundings turn.state event).effects =
      (cache.advance { moment with effects := [] } flight).effects := by
  let silent : Turn := { turn with effects := [] }
  have next : cache.next silent event = cache.advance { moment with effects := [] } flight := by
    cases polls with
    | again member => exact next_poll_of_some (CacheState.flight?_ticket distinct member)
    | first new unfired => exact @next_start_of_unfired cache silent _ new unfired
  exact congrArg Turn.effects next

/-- Every effect of an event has its grounds, unless it is the end of a lookup that was
started after its token had fired, or the notice of a clear. -/
theorem grounds_step
    {event : Event}
    {effect : Effect}
    (member : effect ∈ (cache.step turn.surroundings turn.state event).effects) :
    (∃ moment flight, cache.Polls turn event moment flight ∧
        cache.Grounds moment.surroundings moment.state flight effect) ∨
      (∃ lookup, event = .start lookup ∧
        turn.surroundings.hasFired lookup.token? = true ∧
        effect = .returned lookup.ticket
          (.error (.cancelled (cache.family.resolve lookup.address)))) ∨
      ∃ notice, effect = .notice notice := by
  cases event with
  | start lookup =>
      change effect ∈ (cache.start turn.surroundings turn.state lookup).effects at member
      by_cases known : turn.surroundings.started.contains lookup.ticket = true
      · rw [start, if_pos known] at member
        exact absurd member List.not_mem_nil
      · have new : lookup.ticket ∉ turn.surroundings.started := by simpa using known
        rw [start, if_neg known] at member
        cases fired : turn.surroundings.hasFired lookup.token? with
        | true =>
            rw [fired, if_pos rfl, List.mem_singleton] at member
            exact Or.inr (Or.inl ⟨lookup, rfl, fired, member⟩)
        | false =>
            rw [fired, if_neg Bool.false_ne_true] at member
            rcases grounds_advance member with old | grounds
            · exact absurd old List.not_mem_nil
            · exact Or.inl ⟨_, _, .first new fired, grounds⟩
  | poll ticket =>
      change effect ∈ (poll cache turn.surroundings turn.state ticket).effects at member
      cases found : turn.state.flight? ticket with
      | none =>
          rw [poll, found] at member
          exact absurd member List.not_mem_nil
      | some flight =>
          rw [poll, found] at member
          obtain ⟨flying, rfl⟩ := CacheState.flight?_eq_some found
          rcases grounds_advance member with old | grounds
          · exact absurd old List.not_mem_nil
          · exact Or.inl ⟨turn, flight, .again flying, grounds⟩
  | drop ticket =>
      change effect ∈ (Cache.drop turn.surroundings turn.state ticket).effects at member
      rw [Cache.drop] at member
      split at member <;> exact absurd member List.not_mem_nil
  | clear =>
      change effect ∈ (cache.clear turn.surroundings turn.state).effects at member
      rw [clear, List.mem_singleton] at member
      exact Or.inr (Or.inr ⟨_, member⟩)
  | change change => exact absurd member List.not_mem_nil

/-! ## What events keep -/

section Kept

variable {span : Ticket → Option LookupSpan} {now : Nat} {property : Turn → Prop}
  (kept : ∀ {turn next : Turn}, Reached cache span now turn → Act cache turn next →
    property turn → property next)
include kept

/-- A poll keeps what all acts keep. -/
theorem Reached.kept_of_advance
    (reached : Reached cache span now turn)
    (member : flight ∈ turn.state.flights)
    (holds : property turn) :
    property (cache.advance turn flight) := by
  have acts : Relation.ReflTransGen (Act cache) turn (cache.advance turn flight) :=
    advance_acts member
  generalize cache.advance turn flight = next at acts ⊢
  induction acts with
  | refl => exact holds
  | tail before act inductionHypothesis =>
      exact kept (reached.acts before) act inductionHypothesis

/-- An event keeps what all acts keep and what lookups keep that come or go without acting, if it
does not clear the cache or change the surroundings. -/
theorem Reached.kept_by_next
    (reached : Reached cache span now turn)
    (event : Event)
    (belongs : ∀ lookup, event = .start lookup →
      lookup.ticket ∉ turn.surroundings.started →
        span lookup.ticket = some ⟨cache.family.resolve lookup.address, now⟩)
    (holds : property turn)
    (board : ∀ lookup, event = .start lookup →
      lookup.ticket ∉ turn.surroundings.started →
        turn.surroundings.hasFired lookup.token? = false →
          property (turn.board lookup (cache.family.resolve lookup.address)))
    (decline : ∀ lookup, property (turn.decline lookup (cache.family.resolve lookup.address)))
    (leave : ∀ flight ∈ turn.state.flights,
      property { turn with state := turn.state.leave flight })
    (clear : event = .clear → property (cache.next turn .clear))
    (change : ∀ change, event = .change change →
      property (cache.next turn (.change change))) :
    property (cache.next turn event) := by
  cases event with
  | start lookup =>
      by_cases known : lookup.ticket ∈ turn.surroundings.started
      · rw [next_start_of_mem known]
        exact holds
      cases fired : turn.surroundings.hasFired lookup.token? with
      | true =>
          rw [next_start_of_fired known fired]
          exact decline lookup
      | false =>
          have boarded := Reached.board reached known (belongs lookup rfl known)
          have polls : cache.Polls turn (.start lookup) _ _ := .first known fired
          rw [next_start_of_unfired known fired]
          exact boarded.kept_of_advance kept polls.mem_flights (board lookup rfl known fired)
  | poll ticket =>
      cases found : turn.state.flight? ticket with
      | none =>
          rw [next_poll_of_none found]
          exact holds
      | some flight =>
          rw [next_poll_of_some found]
          exact reached.kept_of_advance kept (CacheState.flight?_eq_some found).1 holds
  | drop ticket =>
      cases found : turn.state.flight? ticket with
      | none =>
          rw [next_drop_of_none found]
          exact holds
      | some flight =>
          rw [next_drop_of_some found]
          exact leave flight (CacheState.flight?_eq_some found).1
  | clear => exact clear rfl
  | change circumstance => exact change circumstance rfl

end Kept

end Cache
end Switchboard
