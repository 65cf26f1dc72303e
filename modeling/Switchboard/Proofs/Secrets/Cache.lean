import Mathlib.Data.List.Forall2
import Switchboard.Proofs.Cache.Acts
import Switchboard.Proofs.Secrets.Resemblance

/-!
# Runs that differ in secrets only

Two runs of a cache go through the same events, but the authorizers of their lookups give
different secrets.  As long as no dial tells the configurations apart that are made from
them, the runs go hand in hand: both know the same places, slots and states, and do the same,
except that they dial with configurations that differ in secrets.
-/

namespace Switchboard

/-- The ways in which dials may stand in the course of a run. -/
abbrev Answers := (String → DialConfig → Answer) → Prop

/-- Configurations that differ at most in secrets, and no dial tells them apart. -/
structure Answers.Overlooks (answers : Answers) (config other : DialConfig) : Prop where
  resembles : config.Resembles other
  same : ∀ answer, answers answer → ∀ endpoint, answer endpoint config = answer endpoint other

/-- Authorizers that differ at most in secrets, and no dial tells apart what they make
possible. -/
structure Answers.OverlooksAll (answers : Answers) (authorizer other : Authorizer) : Prop where
  resembles : authorizer.Resembles other
  same : ∀ (family : Family) debugMode timeouts config otherConfig,
    (family.prepare authorizer debugMode timeouts).outcome = .ok config →
    (family.prepare other debugMode timeouts).outcome = .ok otherConfig →
      ∀ answer, answers answer → ∀ endpoint,
        answer endpoint config = answer endpoint otherConfig

/-- Preparing a lookup with either of two authorizers that are overlooked ends the same way, with
configs that are overlooked. -/
theorem Answers.OverlooksAll.prepare
    {answers : Answers}
    {authorizer other : Authorizer}
    (overlooks : answers.OverlooksAll authorizer other)
    (family : Family)
    (debugMode : Bool)
    (timeouts : Timeouts) :
    Preparation.Matches answers.Overlooks (family.prepare authorizer debugMode timeouts)
      (family.prepare other debugMode timeouts) := by
  obtain ⟨questions, notices, outcome⟩ := overlooks.resembles.prepare family debugMode timeouts
  refine ⟨questions, notices, ?_⟩
  have same := overlooks.same family debugMode timeouts
  generalize (family.prepare authorizer debugMode timeouts).outcome = result at outcome same ⊢
  generalize (family.prepare other debugMode timeouts).outcome = otherResult at outcome same ⊢
  cases outcome with
  | error error => exact .error error
  | ok resembles => exact .ok ⟨resembles, same _ _ rfl rfl⟩

/-! ## Lookups, states and turns -/

section Resembles

variable (answers : Answers)

/-- Lookups that differ at most in the secrets of their authorizers. -/
structure Lookup.Resembles (lookup other : Lookup) : Prop where
  ticket : lookup.ticket = other.ticket
  address : lookup.address = other.address
  authorizer : answers.OverlooksAll lookup.authorizer other.authorizer
  token : lookup.token? = other.token?

/-- Both lookups are queued, or they dial with configurations that differ in secrets. -/
inductive Phase.Resembles : Phase → Phase → Prop
  | queued : Resembles .queued .queued
  | dialing {config other : DialConfig} (overlooks : answers.Overlooks config other) :
      Resembles (.dialing config) (.dialing other)

/-- Lookups under way that differ at most in secrets. -/
structure Flight.Resembles (flight other : Flight) : Prop where
  lookup : flight.lookup.Resembles answers other.lookup
  endpoint : flight.endpoint = other.endpoint
  slot : flight.slot = other.slot
  phase : flight.phase.Resembles answers other.phase

/-- What caches know differs at most in the secrets of the lookups under way. -/
structure CacheState.Resembles (state other : CacheState) : Prop where
  places : state.places = other.places
  slots : state.slots = other.slots
  flights : List.Forall₂ (Flight.Resembles answers) state.flights other.flights

/-- Both caches do the same, or they dial with configurations that differ in secrets. -/
inductive Effect.Resembles : Effect → Effect → Prop
  | same (effect : Effect) : Resembles effect effect
  | dialed (ticket : Ticket) (endpoint : String) {config other : DialConfig}
      (overlooks : answers.Overlooks config other) :
      Resembles (.dialed ticket endpoint config) (.dialed ticket endpoint other)

/-- Turns that differ at most in secrets. -/
structure Turn.Resembles (turn other : Turn) : Prop where
  surroundings : turn.surroundings = other.surroundings
  answer : answers turn.surroundings.answer
  state : turn.state.Resembles answers other.state
  effects : List.Forall₂ (Effect.Resembles answers) turn.effects other.effects

/-- Events that differ at most in the secrets of a lookup. -/
inductive Event.Resembles : Event → Event → Prop
  | start {lookup other : Lookup} (resembles : lookup.Resembles answers other) :
      Resembles (.start lookup) (.start other)
  | poll (ticket : Ticket) : Resembles (.poll ticket) (.poll ticket)
  | drop (ticket : Ticket) : Resembles (.drop ticket) (.drop ticket)
  | clear : Resembles .clear .clear
  | change (change : Change)
      (known : ∀ answer, change = .answers answer → answers answer) :
      Resembles (.change change) (.change change)

end Resembles

variable {answers : Answers}

theorem Flight.Resembles.ticket_eq
    {flight other : Flight}
    (resembles : flight.Resembles answers other) :
    flight.ticket = other.ticket :=
  resembles.lookup.ticket

/-- A list of effects resembles itself. -/
theorem effects_resemble (effects : List Effect) :
    List.Forall₂ (Effect.Resembles answers) effects effects :=
  List.forall₂_same.mpr fun effect _ => .same effect

/-! ## Moves of a state -/

namespace CacheState.Resembles

variable {state other : CacheState} {flight otherFlight : Flight}

/-- States that resemble each other have the same slots. -/
theorem slotAt_eq
    (states : state.Resembles answers other)
    (number : Ticket) :
    state.slotAt number = other.slotAt number := by
  rw [slotAt, slotAt, states.slots]

/-- Writing the same slot keeps the resemblance. -/
theorem setSlot
    (states : state.Resembles answers other)
    (number : Ticket)
    (slot : Slot) :
    (state.setSlot number slot).Resembles answers (other.setSlot number slot) where
  places := states.places
  slots := congrArg (·.set number slot) states.slots
  flights := states.flights

theorem fill
    (states : state.Resembles answers other)
    (number : Ticket)
    (connection? : Option Ticket) :
    (state.fill number connection?).Resembles answers (other.fill number connection?) := by
  rw [CacheState.fill, CacheState.fill, states.slotAt_eq]
  exact states.setSlot number _

/-- Lookups that begin to dial with configs that are overlooked keep the resemblance. -/
theorem markDialing
    (states : state.Resembles answers other)
    (flights : flight.Resembles answers otherFlight)
    {config otherConfig : DialConfig}
    (overlooks : answers.Overlooks config otherConfig) :
    (state.markDialing flight config).Resembles answers
      (other.markDialing otherFlight otherConfig) where
  places := states.places
  slots := states.slots
  flights := by
    refine List.rel_map ?_ states.flights
    intro first second resembles
    simp only [← flights.ticket_eq, ← resembles.ticket_eq]
    split
    · exact ⟨resembles.lookup, resembles.endpoint, resembles.slot, .dialing overlooks⟩
    · exact resembles

/-- A slot is out of use in both states or in neither. -/
theorem all_flights_eq
    (states : state.Resembles answers other)
    (number : Ticket) :
    state.flights.all (·.slot ≠ number) = other.flights.all (·.slot ≠ number) := by
  have flights := states.flights
  generalize state.flights = left at flights ⊢
  generalize other.flights = right at flights ⊢
  induction flights with
  | nil => rfl
  | cons first _ inductionHypothesis =>
      rw [List.all_cons, List.all_cons, first.slot, inductionHypothesis]

/-- An unused slot is reaped in both states or in neither. -/
theorem reap
    (states : state.Resembles answers other)
    (endpoint : String)
    (number : Ticket) :
    (state.reap endpoint number).Resembles answers (other.reap endpoint number) := by
  rw [CacheState.reap, CacheState.reap, states.places, states.slotAt_eq, states.all_flights_eq]
  split
  · exact ⟨rfl, states.slots, states.flights⟩
  · exact states

/-- Both states let a lookup go alike. -/
theorem leave
    (states : state.Resembles answers other)
    (flights : flight.Resembles answers otherFlight) :
    (state.leave flight).Resembles answers (other.leave otherFlight) := by
  rw [CacheState.leave, CacheState.leave, ← flights.ticket_eq, ← flights.slot, ← flights.endpoint,
    ← states.slotAt_eq]
  apply reap
  refine ⟨states.places, (states.setSlot _ _).slots, ?_⟩
  refine List.rel_filter ?_ states.flights
  intro first second resembles
  simp only [resembles.ticket_eq]

/-- A ticket finds lookups that resemble each other, or none in either state. -/
theorem flight?
    (states : state.Resembles answers other)
    (ticket : Ticket) :
    Option.Rel (Flight.Resembles answers) (state.flight? ticket) (other.flight? ticket) := by
  have flights := states.flights
  rw [CacheState.flight?, CacheState.flight?]
  generalize state.flights = left at flights ⊢
  generalize other.flights = right at flights ⊢
  induction flights with
  | nil => exact .none
  | cons first _ inductionHypothesis =>
      rw [List.find?_cons, List.find?_cons, first.ticket_eq]
      split
      · exact .some first
      · exact inductionHypothesis

/-- An endpoint is assigned the same slot in both states. -/
theorem assign
    (states : state.Resembles answers other)
    (endpoint : String)
    (ticket : Ticket) :
    (state.assign endpoint ticket).1.Resembles answers (other.assign endpoint ticket).1 ∧
      (state.assign endpoint ticket).2 = (other.assign endpoint ticket).2 := by
  rw [CacheState.assign, CacheState.assign, states.places]
  split
  · exact ⟨states, rfl⟩
  · have assigned := states.setSlot ticket .vacant
    exact ⟨⟨rfl, assigned.slots, assigned.flights⟩, rfl⟩

/-- A lookup that boards gets the same ticket and slot in both states. -/
theorem board
    (states : state.Resembles answers other)
    {lookup otherLookup : Lookup}
    (lookups : lookup.Resembles answers otherLookup)
    (endpoint : String) :
    (state.board lookup endpoint).1.Resembles answers (other.board otherLookup endpoint).1 ∧
      (state.board lookup endpoint).2.Resembles answers
        (other.board otherLookup endpoint).2 := by
  obtain ⟨assigned, number⟩ := states.assign endpoint lookup.ticket
  rw [CacheState.board, CacheState.board, ← lookups.ticket]
  simp only [← number, ← assigned.slotAt_eq]
  have flights : ∀ slot, Flight.Resembles answers ⟨lookup, endpoint, slot, .queued⟩
      ⟨otherLookup, endpoint, slot, .queued⟩ := fun _ => ⟨lookups, rfl, rfl, .queued⟩
  refine ⟨⟨assigned.places, (assigned.setSlot _ _).slots, ?_⟩, flights _⟩
  exact List.rel_append assigned.flights (.cons (flights _) .nil)

theorem clear (states : state.Resembles answers other) :
    state.clear.Resembles answers other.clear :=
  ⟨rfl, states.slots, states.flights⟩

end CacheState.Resembles

/-! ## Moves of a turn -/

namespace Turn.Resembles

variable {turn other : Turn} {flight otherFlight : Flight}

theorem record
    (turns : turn.Resembles answers other)
    {effects otherEffects : List Effect}
    (records : List.Forall₂ (Effect.Resembles answers) effects otherEffects) :
    (turn.record effects).Resembles answers (other.record otherEffects) :=
  ⟨turns.surroundings, turns.answer, turns.state, List.rel_append turns.effects records⟩

/-- A lookup ends alike in both turns. -/
theorem finish
    (turns : turn.Resembles answers other)
    (flights : flight.Resembles answers otherFlight)
    (outcome : Outcome) :
    (turn.finish flight outcome).Resembles answers (other.finish otherFlight outcome) := by
  rw [Turn.finish, Turn.finish, ← flights.ticket_eq]
  have left : Turn.Resembles answers { turn with state := turn.state.leave flight }
      { other with state := other.state.leave otherFlight } :=
    ⟨turns.surroundings, turns.answer, turns.state.leave flights, turns.effects⟩
  exact left.record (effects_resemble _)

/-- Two lookups put the same questions to their authorizers and write the same notices. -/
theorem consult
    (turns : turn.Resembles answers other)
    (flights : flight.Resembles answers otherFlight)
    (cache : Cache) :
    (cache.consult turn flight).Resembles answers (cache.consult other otherFlight) := by
  have prepared := flights.lookup.authorizer.prepare cache.family
    (cache.debug.isOn turn.surroundings.environment) cache.timeouts
  rw [Cache.consult, Cache.consult, ← turns.surroundings, ← flights.ticket_eq, Cache.prepare,
    Cache.prepare, prepared.questions, prepared.notices]
  exact turns.record (effects_resemble _)

/-- Both turns dial, with configs that are overlooked. -/
theorem dial
    (turns : turn.Resembles answers other)
    (flights : flight.Resembles answers otherFlight)
    {config otherConfig : DialConfig}
    (overlooks : answers.Overlooks config otherConfig) :
    (Cache.dial turn flight config).Resembles answers
      (Cache.dial other otherFlight otherConfig) := by
  rw [Cache.dial, Cache.dial, ← turns.surroundings, ← flights.ticket_eq, ← flights.endpoint]
  have marked : Turn.Resembles answers
      ⟨turn.surroundings.report flight.ticket .ready, turn.state.markDialing flight config,
        turn.effects⟩
      ⟨turn.surroundings.report flight.ticket .ready,
        other.state.markDialing otherFlight otherConfig, other.effects⟩ :=
    ⟨rfl, turns.answer, turns.state.markDialing flights overlooks, turns.effects⟩
  exact marked.record (.cons (.dialed _ _ overlooks) .nil)

/-- What a dial ends with is handled alike in both turns. -/
theorem establish
    (turns : turn.Resembles answers other)
    (flights : flight.Resembles answers otherFlight)
    (state? : Option Connectivity) :
    (Cache.establish turn flight state?).Resembles answers
      (Cache.establish other otherFlight state?) := by
  rw [Cache.establish, Cache.establish, ← turns.surroundings, ← flights.ticket_eq,
    ← flights.endpoint, ← flights.slot]
  have known : answers
      (state?.elim turn.surroundings (turn.surroundings.report flight.ticket)).answer := by
    cases state? <;> exact turns.answer
  have filled : Turn.Resembles answers
      ⟨state?.elim turn.surroundings (turn.surroundings.report flight.ticket),
        turn.state.fill flight.slot (some flight.ticket), turn.effects⟩
      ⟨state?.elim turn.surroundings (turn.surroundings.report flight.ticket),
        other.state.fill flight.slot (some flight.ticket), other.effects⟩ :=
    ⟨rfl, known, turns.state.fill _ _, turns.effects⟩
  exact (filled.record (effects_resemble _)).finish flights _

/-- A dial stands in the same way in both turns. -/
theorem awaitDial
    (turns : turn.Resembles answers other)
    (flights : flight.Resembles answers otherFlight)
    {config otherConfig : DialConfig}
    (overlooks : answers.Overlooks config otherConfig) :
    (Cache.awaitDial turn flight config).Resembles answers
      (Cache.awaitDial other otherFlight otherConfig) := by
  have stands : other.surroundings.answer otherFlight.endpoint otherConfig =
      turn.surroundings.answer flight.endpoint config := by
    rw [← turns.surroundings, ← flights.endpoint]
    exact (overlooks.same _ turns.answer _).symm
  cases answered : turn.surroundings.answer flight.endpoint config with
  | pending =>
      rw [Cache.awaitDial_of_pending answered,
        Cache.awaitDial_of_pending (stands.trans answered)]
      exact turns
  | failed error =>
      rw [Cache.awaitDial_of_failed answered, Cache.awaitDial_of_failed (stands.trans answered)]
      exact turns.finish flights _
  | connected state? =>
      rw [Cache.awaitDial_of_connected answered,
        Cache.awaitDial_of_connected (stands.trans answered)]
      exact turns.establish flights state?

/-- Both authorizers are asked the same, and both refuse or make a dial possible. -/
theorem beginDial
    (turns : turn.Resembles answers other)
    (flights : flight.Resembles answers otherFlight)
    (cache : Cache) :
    (cache.beginDial turn flight).Resembles answers (cache.beginDial other otherFlight) := by
  have outcome : Alike answers.Overlooks
      (cache.prepare turn.surroundings.environment flight.lookup.authorizer).outcome
      (cache.prepare other.surroundings.environment otherFlight.lookup.authorizer).outcome := by
    rw [← turns.surroundings]
    exact (flights.lookup.authorizer.prepare _ _ _).outcome
  have consulted := turns.consult flights cache
  generalize prepared : Preparation.outcome (cache.prepare turn.surroundings.environment
    flight.lookup.authorizer) = result at outcome
  generalize otherPrepared : Preparation.outcome (cache.prepare other.surroundings.environment
    otherFlight.lookup.authorizer) = otherResult at outcome
  cases outcome with
  | error error =>
      rw [Cache.beginDial_of_error prepared, Cache.beginDial_of_error otherPrepared]
      exact consulted.finish flights _
  | ok overlooks =>
      rw [Cache.beginDial_of_ok prepared, Cache.beginDial_of_ok otherPrepared]
      exact (consulted.dial flights overlooks).awaitDial flights overlooks

/-- A connection is closed and its slot emptied in both turns. -/
theorem evict
    (turns : turn.Resembles answers other)
    (flights : flight.Resembles answers otherFlight)
    (connection : Ticket) :
    (Cache.evict turn flight connection).Resembles answers
      (Cache.evict other otherFlight connection) := by
  rw [Cache.evict, Cache.evict, ← turns.surroundings, ← flights.ticket_eq, ← flights.endpoint,
    ← flights.slot]
  have emptied : Turn.Resembles answers
      ⟨turn.surroundings.report connection .shutdown, turn.state.fill flight.slot none,
        turn.effects⟩
      ⟨turn.surroundings.report connection .shutdown, other.state.fill flight.slot none,
        other.effects⟩ :=
    ⟨rfl, turns.answer, turns.state.fill _ _, turns.effects⟩
  exact emptied.record (effects_resemble _)

/-- A lookup that gets its slot goes on alike in both turns. -/
theorem enter
    (turns : turn.Resembles answers other)
    (flights : flight.Resembles answers otherFlight)
    (cache : Cache) :
    (cache.enter turn flight).Resembles answers (cache.enter other otherFlight) := by
  rw [Cache.enter, Cache.enter, ← flights.slot, ← turns.state.slotAt_eq, ← turns.surroundings,
    ← flights.endpoint]
  split
  · exact turns.beginDial flights cache
  · dsimp only
    split
    · exact (turns.record (effects_resemble _)).finish flights _
    · exact (turns.evict flights _).beginDial flights cache

/-- Lookups that resemble each other advance in the same way. -/
theorem advance
    (turns : turn.Resembles answers other)
    (flights : flight.Resembles answers otherFlight)
    (cache : Cache) :
    (cache.advance turn flight).Resembles answers (cache.advance other otherFlight) := by
  rw [Cache.advance, Cache.advance, ← turns.surroundings, ← flights.lookup.token,
    ← flights.endpoint]
  split
  · exact turns.finish flights _
  · have phase := flights.phase
    generalize flight.phase = left at phase ⊢
    generalize otherFlight.phase = right at phase ⊢
    cases phase with
    | dialing overlooks => exact turns.awaitDial flights overlooks
    | queued =>
        rw [← flights.slot, ← turns.state.slotAt_eq, ← flights.ticket_eq]
        dsimp only
        split
        · exact turns.enter flights cache
        · exact turns

end Turn.Resembles

/-! ## Runs -/

/-- A change leaves the answers among the allowed ones if those it brings are. -/
theorem Surroundings.answers_apply
    {surroundings : Surroundings}
    (known : answers surroundings.answer)
    {change : Change}
    (changes : ∀ answer, change = .answers answer → answers answer) :
    answers (surroundings.apply change).answer := by
  cases change with
  | fire token => exact known
  | report connection state =>
      rw [Surroundings.apply]
      split <;> exact known
  | answers answer => exact changes answer rfl
  | environment environment => exact known

/-- Whatever happens to both caches, they do the same except for secrets. -/
theorem CacheState.Resembles.step
    {state other : CacheState}
    (states : state.Resembles answers other)
    {surroundings : Surroundings}
    (known : answers surroundings.answer)
    {event otherEvent : Event}
    (events : event.Resembles answers otherEvent)
    (cache : Cache) :
    (cache.step surroundings state event).Resembles answers
      (cache.step surroundings other otherEvent) := by
  have begun : ∀ {state other : CacheState}, state.Resembles answers other →
      ∀ {surroundings : Surroundings}, answers surroundings.answer →
        Turn.Resembles answers ⟨surroundings, state, []⟩ ⟨surroundings, other, []⟩ :=
    fun states _ known => ⟨rfl, known, states, .nil⟩
  cases events with
  | @start lookup _ lookups =>
      rw [Cache.step, Cache.step, Cache.start, Cache.start, ← lookups.ticket, ← lookups.address,
        ← lookups.token]
      split
      · exact begun states known
      · dsimp only
        split
        · exact ⟨rfl, known, states, effects_resemble _⟩
        · have registered : answers (surroundings.register lookup.ticket).answer := known
          obtain ⟨boarded, flights⟩ := states.board lookups (cache.family.resolve lookup.address)
          exact (begun boarded registered).advance flights cache
  | poll ticket =>
      have flights := states.flight? ticket
      rw [Cache.step, Cache.step, Cache.poll, Cache.poll]
      generalize state.flight? ticket = left at flights ⊢
      generalize other.flight? ticket = right at flights ⊢
      cases flights with
      | none => exact begun states known
      | some flights => exact (begun states known).advance flights cache
  | drop ticket =>
      have flights := states.flight? ticket
      rw [Cache.step, Cache.step, Cache.drop, Cache.drop]
      generalize state.flight? ticket = left at flights ⊢
      generalize other.flight? ticket = right at flights ⊢
      cases flights with
      | none => exact begun states known
      | some flights => exact begun (states.leave flights) known
  | clear =>
      rw [Cache.step, Cache.step, Cache.clear, Cache.clear, states.places]
      exact ⟨rfl, known, states.clear, effects_resemble _⟩
  | change change changes =>
      exact ⟨rfl, Surroundings.answers_apply known changes, states, .nil⟩

/-- One event that resembles another keeps the resemblance of the turns. -/
theorem Turn.Resembles.next
    {turn other : Turn}
    (turns : turn.Resembles answers other)
    {event otherEvent : Event}
    (events : event.Resembles answers otherEvent)
    (cache : Cache) :
    (cache.next turn event).Resembles answers (cache.next other otherEvent) := by
  have stepped := turns.state.step turns.answer events cache
  rw [Cache.next, Cache.next, ← turns.surroundings]
  exact ⟨stepped.surroundings, stepped.answer, stepped.state,
    List.rel_append turns.effects stepped.effects⟩

/-- Runs through events that differ at most in secrets go hand in hand. -/
theorem Turn.Resembles.run
    {turn other : Turn}
    (turns : turn.Resembles answers other)
    {events otherEvents : List Event}
    (resemble : List.Forall₂ (Event.Resembles answers) events otherEvents)
    (cache : Cache) :
    (cache.run turn events).Resembles answers (cache.run other otherEvents) := by
  induction resemble generalizing turn other with
  | nil => exact turns
  | cons first _ inductionHypothesis => exact inductionHypothesis (turns.next first cache)

theorem CacheState.resembles_empty :
    CacheState.Resembles answers .empty .empty :=
  ⟨rfl, rfl, .nil⟩

end Switchboard
