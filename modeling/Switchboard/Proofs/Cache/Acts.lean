import Mathlib.Logic.Relation
import Switchboard.Proofs.Cache.History
import Switchboard.Proofs.Cache.State

/-!
# Acts of a lookup

A lookup that is polled acts: it gives up, hands out a connection, evicts one, asks
and is refused, begins to dial, or learns how its dial has ended.  Every poll is a
sequence of such acts, and each act says under which circumstances it happens.
-/

namespace Switchboard

namespace Turn

/-- The turn that comes after more has been done. -/
def prepend
    (turn : Turn)
    (effects : List Effect) : Turn :=
  { turn with effects := effects ++ turn.effects }

@[simp]
theorem surroundings_prepend
    (turn : Turn)
    (effects : List Effect) :
    (turn.prepend effects).surroundings = turn.surroundings := rfl

@[simp]
theorem state_prepend
    (turn : Turn)
    (effects : List Effect) :
    (turn.prepend effects).state = turn.state := rfl

theorem prepend_nil (turn : Turn) :
    prepend ⟨turn.surroundings, turn.state, []⟩ turn.effects = turn := by
  simp [prepend]

/-- Recording more effects does not depend on those that came before. -/
theorem record_prepend
    (turn : Turn)
    (effects more : List Effect) :
    (turn.prepend effects).record more = (turn.record more).prepend effects := by
  simp [prepend, record]

/-- Neither does the end of a lookup. -/
theorem finish_prepend
    (turn : Turn)
    (effects : List Effect)
    (flight : Flight)
    (outcome : Outcome) :
    (turn.prepend effects).finish flight outcome =
      (turn.finish flight outcome).prepend effects := by
  simp [prepend, finish, record]

end Turn

namespace Cache

open Relation (ReflTransGen)

/-! ## Parts of a poll -/

/-- The turn in which a lookup has asked its authorizer. -/
def consult
    (cache : Cache)
    (turn : Turn)
    (flight : Flight) : Turn :=
  let preparation :=
    cache.prepare turn.surroundings.environment flight.lookup.authorizer
  turn.record
    (preparation.questions.map (.consulted flight.ticket) ++
      preparation.notices.map .notice)

/-- The turn in which a lookup has begun to dial. -/
def dial
    (turn : Turn)
    (flight : Flight)
    (config : DialConfig) : Turn :=
  Turn.record
    ⟨turn.surroundings.report flight.ticket .ready,
      turn.state.markDialing flight config,
      turn.effects⟩
    [.dialed flight.ticket flight.endpoint config]

/-- The turn in which the dial of a lookup has succeeded and the lookup has ended. -/
def establish
    (turn : Turn)
    (flight : Flight)
    (state? : Option Connectivity) : Turn :=
  (Turn.record
    ⟨state?.elim turn.surroundings (turn.surroundings.report flight.ticket),
      turn.state.fill flight.slot (some flight.ticket),
      turn.effects⟩
    [.notice (.established flight.endpoint)]).finish flight (.ok flight.ticket)

/-- A lookup whose preparation fails returns the error and dials nothing. -/
theorem beginDial_of_error
    {cache : Cache}
    {turn : Turn}
    {flight : Flight}
    {error : ConnectError}
    (refused :
      (cache.prepare turn.surroundings.environment
        flight.lookup.authorizer).outcome = .error error) :
    cache.beginDial turn flight =
      (cache.consult turn flight).finish flight (.error error) := by
  simp only [beginDial, refused, consult]

/-- A lookup that is prepared dials with the config it got. -/
theorem beginDial_of_ok
    {cache : Cache}
    {turn : Turn}
    {flight : Flight}
    {config : DialConfig}
    (prepared :
      (cache.prepare turn.surroundings.environment
        flight.lookup.authorizer).outcome = .ok config) :
    cache.beginDial turn flight =
      awaitDial (dial (cache.consult turn flight) flight config) flight config := by
  simp only [beginDial, prepared, consult, dial]

/-- While a dial is pending nothing else happens. -/
theorem awaitDial_of_pending
    {turn : Turn}
    {flight : Flight}
    {config : DialConfig}
    (pending : turn.surroundings.answer flight.endpoint config = .pending) :
    awaitDial turn flight config = turn := by
  simp only [awaitDial, pending]

/-- A dial that fails gives the lookup its own error. -/
theorem awaitDial_of_failed
    {turn : Turn}
    {flight : Flight}
    {config : DialConfig}
    {error : ConnectError}
    (failed : turn.surroundings.answer flight.endpoint config = .failed error) :
    awaitDial turn flight config = turn.finish flight (.error error) := by
  simp only [awaitDial, failed]

/-- A dial that succeeds goes on with the connection. -/
theorem awaitDial_of_connected
    {turn : Turn}
    {flight : Flight}
    {config : DialConfig}
    {state? : Option Connectivity}
    (connected :
      turn.surroundings.answer flight.endpoint config = .connected state?) :
    awaitDial turn flight config = establish turn flight state? := by
  simp only [awaitDial, connected, establish]

/-- What a lookup under way can do when it is polled. -/
inductive Act (cache : Cache) (turn : Turn) : Turn → Prop
  /-- Its token has fired, and it gives up. -/
  | cancel
      {flight : Flight}
      (member : flight ∈ turn.state.flights)
      (fired : turn.surroundings.hasFired flight.lookup.token? = true) :
      Act cache turn (turn.finish flight (.error (.cancelled flight.endpoint)))
  /-- It has the lock of its slot, and hands out the connection there. -/
  | reuse
      {flight : Flight}
      {connection : Ticket}
      (member : flight ∈ turn.state.flights)
      (waiting : flight.phase = .queued)
      (owns : (turn.state.slotAt flight.slot).lock.owner? = some flight.ticket)
      (held : (turn.state.slotAt flight.slot).connection? = some connection)
      (reusable :
        cache.policy.reusable (turn.surroundings.stateOf connection) = true) :
      Act cache turn
        ((turn.record [.notice (.reusing flight.endpoint
          (turn.surroundings.stateOf connection))]).finish flight (.ok connection))
  /-- It has the lock of its slot, and closes the connection there. -/
  | evict
      {flight : Flight}
      {connection : Ticket}
      (member : flight ∈ turn.state.flights)
      (waiting : flight.phase = .queued)
      (owns : (turn.state.slotAt flight.slot).lock.owner? = some flight.ticket)
      (held : (turn.state.slotAt flight.slot).connection? = some connection)
      (stale :
        cache.policy.reusable (turn.surroundings.stateOf connection) = false) :
      Act cache turn (evict turn flight connection)
  /-- It has the lock of its empty slot, and its authorizer refuses. -/
  | refuse
      {flight : Flight}
      {error : ConnectError}
      (member : flight ∈ turn.state.flights)
      (waiting : flight.phase = .queued)
      (owns : (turn.state.slotAt flight.slot).lock.owner? = some flight.ticket)
      (empty : (turn.state.slotAt flight.slot).connection? = none)
      (refused :
        (cache.prepare turn.surroundings.environment
          flight.lookup.authorizer).outcome = .error error) :
      Act cache turn ((cache.consult turn flight).finish flight (.error error))
  /-- It has the lock of its empty slot, and begins to dial. -/
  | dial
      {flight : Flight}
      {config : DialConfig}
      (member : flight ∈ turn.state.flights)
      (waiting : flight.phase = .queued)
      (owns : (turn.state.slotAt flight.slot).lock.owner? = some flight.ticket)
      (empty : (turn.state.slotAt flight.slot).connection? = none)
      (prepared :
        (cache.prepare turn.surroundings.environment
          flight.lookup.authorizer).outcome = .ok config) :
      Act cache turn (dial (cache.consult turn flight) flight config)
  /-- Its dial has failed. -/
  | fail
      {flight : Flight}
      {config : DialConfig}
      {error : ConnectError}
      (member : flight ∈ turn.state.flights)
      (dialing : flight.phase = .dialing config)
      (failed :
        turn.surroundings.answer flight.endpoint config = .failed error) :
      Act cache turn (turn.finish flight (.error error))
  /-- Its dial has succeeded. -/
  | establish
      {flight : Flight}
      {config : DialConfig}
      {state? : Option Connectivity}
      (member : flight ∈ turn.state.flights)
      (dialing : flight.phase = .dialing config)
      (connected :
        turn.surroundings.answer flight.endpoint config = .connected state?) :
      Act cache turn (establish turn flight state?)

/-! ## Polls as sequences of acts -/

/-- Waiting for a dial is made of acts. -/
theorem awaitDial_acts
    {cache : Cache}
    {turn : Turn}
    {flight : Flight}
    {config : DialConfig}
    (member : flight ∈ turn.state.flights)
    (dialing : flight.phase = .dialing config) :
    ReflTransGen (Act cache) turn (awaitDial turn flight config) := by
  cases answer : turn.surroundings.answer flight.endpoint config with
  | pending =>
      rw [awaitDial_of_pending answer]
  | failed error =>
      rw [awaitDial_of_failed answer]
      exact .single (.fail member dialing answer)
  | connected state? =>
      rw [awaitDial_of_connected answer]
      exact .single (.establish member dialing answer)

/-- A queued lookup that owns an empty slot dials in acts. -/
theorem beginDial_acts
    {cache : Cache}
    {turn : Turn}
    {flight : Flight}
    (member : flight ∈ turn.state.flights)
    (waiting : flight.phase = .queued)
    (owns : (turn.state.slotAt flight.slot).lock.owner? = some flight.ticket)
    (empty : (turn.state.slotAt flight.slot).connection? = none) :
    ReflTransGen (Act cache) turn (cache.beginDial turn flight) := by
  cases outcome : (cache.prepare turn.surroundings.environment
      flight.lookup.authorizer).outcome with
  | error error =>
      rw [beginDial_of_error outcome]
      exact .single (.refuse member waiting owns empty outcome)
  | ok config =>
      rw [beginDial_of_ok outcome]
      -- From here on the lookup is under way as one that dials.
      let dialing : Flight := { flight with phase := .dialing config }
      have dialingMember :
          dialing ∈ (dial (cache.consult turn flight) flight config).state.flights := by
        refine List.mem_map.mpr ⟨flight, member, ?_⟩
        rw [if_pos rfl]
      have awaits : ReflTransGen (Act cache) _ _ := awaitDial_acts dialingMember rfl
      exact .head (.dial member waiting owns empty outcome) awaits

/-- A queued lookup that owns its slot goes on in acts. -/
theorem enter_acts
    {cache : Cache}
    {turn : Turn}
    {flight : Flight}
    (member : flight ∈ turn.state.flights)
    (waiting : flight.phase = .queued)
    (owns : (turn.state.slotAt flight.slot).lock.owner? = some flight.ticket) :
    ReflTransGen (Act cache) turn (cache.enter turn flight) := by
  unfold enter
  cases held : (turn.state.slotAt flight.slot).connection? with
  | none => exact beginDial_acts member waiting owns held
  | some connection =>
      dsimp only
      by_cases reusable :
          cache.policy.reusable (turn.surroundings.stateOf connection) = true
      · rw [if_pos reusable]
        exact .single (.reuse member waiting owns held reusable)
      · rw [if_neg reusable]
        have stale := Bool.eq_false_iff.mpr reusable
        have emptied :
            ((evict turn flight connection).state.slotAt flight.slot).connection? =
              none := by
          change ((turn.state.fill flight.slot none).slotAt flight.slot).connection? = _
          simp
        have stillOwns :
            ((evict turn flight connection).state.slotAt flight.slot).lock.owner? =
              some flight.ticket := by
          change ((turn.state.fill flight.slot none).slotAt flight.slot).lock.owner? = _
          simpa using owns
        have begins : ReflTransGen (Act cache) (evict turn flight connection) _ :=
          beginDial_acts member waiting stillOwns emptied
        exact .head (.evict member waiting owns held stale) begins

/-- Whatever a lookup does when it is polled is a sequence of acts. -/
theorem advance_acts
    {cache : Cache}
    {turn : Turn}
    {flight : Flight}
    (member : flight ∈ turn.state.flights) :
    ReflTransGen (Act cache) turn (cache.advance turn flight) := by
  unfold advance
  split
  · next fired => exact .single (.cancel member fired)
  · cases phase : flight.phase with
    | dialing config => exact awaitDial_acts member phase
    | queued =>
        dsimp only
        split
        · next owns => exact enter_acts member phase owns
        · exact .refl

/-! ## What was done before -/

theorem awaitDial_prepend
    (turn : Turn)
    (effects : List Effect)
    (flight : Flight)
    (config : DialConfig) :
    awaitDial (turn.prepend effects) flight config =
      (awaitDial turn flight config).prepend effects := by
  cases answer : turn.surroundings.answer flight.endpoint config with
  | pending =>
      rw [awaitDial_of_pending answer]
      exact awaitDial_of_pending answer
  | failed error =>
      rw [awaitDial_of_failed answer, ← Turn.finish_prepend]
      exact awaitDial_of_failed answer
  | connected state? =>
      rw [awaitDial_of_connected answer, establish, ← Turn.finish_prepend,
        ← Turn.record_prepend]
      exact awaitDial_of_connected answer

/-- The questions put to an authorizer do not depend on the effects before. -/
theorem consult_prepend
    (cache : Cache)
    (turn : Turn)
    (effects : List Effect)
    (flight : Flight) :
    cache.consult (turn.prepend effects) flight =
      (cache.consult turn flight).prepend effects :=
  turn.record_prepend effects _

theorem dial_prepend
    (turn : Turn)
    (effects : List Effect)
    (flight : Flight)
    (config : DialConfig) :
    dial (turn.prepend effects) flight config =
      (dial turn flight config).prepend effects := by
  simp [dial, Turn.prepend, Turn.record]

/-- A dial that begins does not depend on the effects before. -/
theorem beginDial_prepend
    (cache : Cache)
    (turn : Turn)
    (effects : List Effect)
    (flight : Flight) :
    cache.beginDial (turn.prepend effects) flight =
      (cache.beginDial turn flight).prepend effects := by
  cases outcome : (cache.prepare turn.surroundings.environment
      flight.lookup.authorizer).outcome with
  | error error =>
      rw [beginDial_of_error outcome, ← Turn.finish_prepend, ← consult_prepend]
      exact beginDial_of_error outcome
  | ok config =>
      rw [beginDial_of_ok outcome, ← awaitDial_prepend, ← dial_prepend,
        ← consult_prepend]
      exact beginDial_of_ok outcome

theorem evict_prepend
    (turn : Turn)
    (effects : List Effect)
    (flight : Flight)
    (connection : Ticket) :
    evict (turn.prepend effects) flight connection =
      (evict turn flight connection).prepend effects := by
  simp [evict, Turn.prepend, Turn.record]

/-- A lookup that has its slot's lock does not depend on the effects before. -/
theorem enter_prepend
    (cache : Cache)
    (turn : Turn)
    (effects : List Effect)
    (flight : Flight) :
    cache.enter (turn.prepend effects) flight =
      (cache.enter turn flight).prepend effects := by
  unfold enter
  simp only [Turn.surroundings_prepend, Turn.state_prepend, evict_prepend,
    Turn.record_prepend, Turn.finish_prepend, beginDial_prepend]
  cases (turn.state.slotAt flight.slot).connection? with
  | none => rfl
  | some connection =>
      dsimp only
      split <;> rfl

/-- A poll does the same whatever has been done before. -/
theorem advance_prepend
    (cache : Cache)
    (turn : Turn)
    (effects : List Effect)
    (flight : Flight) :
    cache.advance (turn.prepend effects) flight =
      (cache.advance turn flight).prepend effects := by
  unfold advance
  simp only [Turn.surroundings_prepend, Turn.state_prepend, Turn.finish_prepend,
    awaitDial_prepend, enter_prepend]
  split
  · rfl
  · cases flight.phase with
    | dialing config => rfl
    | queued =>
        dsimp only
        split <;> rfl

end Cache
end Switchboard
