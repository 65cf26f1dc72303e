import Switchboard.Proofs.Cache.Grounds

/-!
# Dials to one endpoint

A lookup that is polled looks how dials to its own endpoint stand, and at no others.  So the
poll does the same where only dials to that endpoint ever come to an end.
-/

namespace Switchboard

/-- How dials stand where dials to all endpoints but one stay open. -/
def confined
    (answer : String → DialConfig → Answer)
    (endpoint : String) : String → DialConfig → Answer :=
  fun other config => if other = endpoint then answer other config else .pending

/-- At the endpoint itself the answers stay as they are. -/
theorem confined_self
    (answer : String → DialConfig → Answer)
    (endpoint : String)
    (config : DialConfig) :
    confined answer endpoint endpoint config = answer endpoint config :=
  if_pos rfl

/-- The surroundings in which dials to all endpoints but one stay open. -/
def Surroundings.confine
    (surroundings : Surroundings)
    (endpoint : String) : Surroundings :=
  { surroundings with answer := confined surroundings.answer endpoint }

/-- The turn in which dials to all endpoints but one stay open. -/
def Turn.confine
    (turn : Turn)
    (endpoint : String) : Turn :=
  { turn with surroundings := turn.surroundings.confine endpoint }

namespace Turn

variable (turn : Turn) (endpoint : String)

@[simp]
theorem state_confine : (turn.confine endpoint).state = turn.state := rfl

/-- Confined surroundings report the same states of connections. -/
@[simp]
theorem stateOf_confine (connection : Ticket) :
    (turn.confine endpoint).surroundings.stateOf connection =
      turn.surroundings.stateOf connection := rfl

/-- Confined surroundings have fired the same tokens. -/
@[simp]
theorem hasFired_confine (token? : Option Token) :
    (turn.confine endpoint).surroundings.hasFired token? =
      turn.surroundings.hasFired token? := rfl

theorem record_confine (effects : List Effect) :
    (turn.confine endpoint).record effects = (turn.record effects).confine endpoint := rfl

theorem finish_confine
    (flight : Flight)
    (outcome : Outcome) :
    (turn.confine endpoint).finish flight outcome =
      (turn.finish flight outcome).confine endpoint := rfl

end Turn

namespace Cache

variable {turn : Turn} {flight : Flight} {endpoint : String}

theorem awaitDial_confine
    (own : flight.endpoint = endpoint)
    (config : DialConfig) :
    awaitDial (turn.confine endpoint) flight config =
      (awaitDial turn flight config).confine endpoint := by
  subst own
  have same : (turn.confine flight.endpoint).surroundings.answer flight.endpoint config =
      turn.surroundings.answer flight.endpoint config := confined_self _ _ _
  cases answer : turn.surroundings.answer flight.endpoint config with
  | pending =>
      rw [awaitDial_of_pending answer, awaitDial_of_pending (same.trans answer)]
  | failed error =>
      rw [awaitDial_of_failed answer, awaitDial_of_failed (same.trans answer)]
      rfl
  | connected state? =>
      rw [awaitDial_of_connected answer, awaitDial_of_connected (same.trans answer)]
      cases state? <;> rfl

/-- A lookup of the endpoint begins to dial alike. -/
theorem beginDial_confine
    (cache : Cache)
    (own : flight.endpoint = endpoint) :
    cache.beginDial (turn.confine endpoint) flight =
      (cache.beginDial turn flight).confine endpoint := by
  cases outcome : (cache.prepare turn.surroundings.environment
      flight.lookup.authorizer).outcome with
  | error error =>
      rw [beginDial_of_error outcome]
      exact beginDial_of_error outcome
  | ok config =>
      rw [beginDial_of_ok outcome, ← awaitDial_confine own]
      exact beginDial_of_ok outcome

theorem evict_confine
    (turn : Turn)
    (flight : Flight)
    (connection : Ticket)
    (endpoint : String) :
    evict (turn.confine endpoint) flight connection =
      (evict turn flight connection).confine endpoint := rfl

/-- A lookup of the endpoint that has its slot's lock goes on alike. -/
theorem enter_confine
    (cache : Cache)
    (own : flight.endpoint = endpoint) :
    cache.enter (turn.confine endpoint) flight =
      (cache.enter turn flight).confine endpoint := by
  unfold enter
  simp only [Turn.state_confine, Turn.stateOf_confine, Turn.record_confine,
    Turn.finish_confine, evict_confine, cache.beginDial_confine own]
  cases (turn.state.slotAt flight.slot).connection? with
  | none => rfl
  | some connection =>
      dsimp only
      split <;> rfl

/-- A poll is the same where only dials to the endpoint of the lookup come to an end. -/
theorem advance_confine
    (cache : Cache)
    (own : flight.endpoint = endpoint) :
    cache.advance (turn.confine endpoint) flight =
      (cache.advance turn flight).confine endpoint := by
  unfold advance
  simp only [Turn.state_confine, Turn.hasFired_confine, Turn.finish_confine,
    awaitDial_confine own, cache.enter_confine own]
  split
  · rfl
  · cases flight.phase with
    | dialing config => rfl
    | queued =>
        dsimp only
        split <;> rfl

/-- What happens to a lookup of an endpoint is the same where only dials to the endpoint come
to an end. -/
theorem next_confine
    (cache : Cache)
    {event : Event}
    (quiet : ∀ change, event ≠ .change change)
    (own : ∀ moment flight, cache.Polls turn event moment flight →
      flight.endpoint = endpoint) :
    cache.next (turn.confine endpoint) event = (cache.next turn event).confine endpoint := by
  cases event with
  | start lookup =>
      by_cases known : lookup.ticket ∈ turn.surroundings.started
      · rw [next_start_of_mem known]
        exact next_start_of_mem known
      · cases fired : turn.surroundings.hasFired lookup.token? with
        | true =>
            rw [next_start_of_fired known fired]
            exact next_start_of_fired known fired
        | false =>
            rw [next_start_of_unfired known fired,
              ← cache.advance_confine (own _ _ (.first known fired))]
            exact next_start_of_unfired known fired
  | poll ticket =>
      cases found : turn.state.flight? ticket with
      | none =>
          rw [next_poll_of_none found]
          exact next_poll_of_none found
      | some flight =>
          obtain ⟨member, rfl⟩ := CacheState.flight?_eq_some found
          rw [next_poll_of_some found, ← cache.advance_confine (own _ _ (.again member))]
          exact next_poll_of_some found
  | drop ticket =>
      cases found : turn.state.flight? ticket with
      | none =>
          rw [next_drop_of_none found]
          exact next_drop_of_none found
      | some flight =>
          rw [next_drop_of_some found]
          exact next_drop_of_some found
  | clear => rfl
  | change change => exact absurd rfl (quiet change)

end Cache
end Switchboard
