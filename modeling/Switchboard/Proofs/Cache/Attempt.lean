import Switchboard.Proofs.Cache.Inquiry

/-!
# Attempts of a lookup

A lookup that finds nothing to hand out makes an attempt of its own.  It closes what is in
its slot, asks its own authorizer, and dials; how its dial stands, nobody else is told.
-/

namespace Switchboard
namespace Cache

/-- What a lookup does when it looks how its dial stands. -/
def hear
    (ticket : Ticket)
    (endpoint : String) : Answer → List Effect
  | .pending => []
  | .failed error => [.returned ticket (.error error)]
  | .connected _ => [.notice (.established endpoint), .returned ticket (.ok ticket)]

/-- What a lookup does whose slot is empty: it asks its authorizer, and ends if it is
refused; otherwise it dials and looks how its dial stands. -/
def ownAttempt
    (cache : Cache)
    (surroundings : Surroundings)
    (lookup : Lookup)
    (endpoint : String) : List Effect :=
  let preparation := cache.prepare surroundings.environment lookup.authorizer
  preparation.questions.map (.consulted lookup.ticket) ++
    preparation.notices.map .notice ++
    match preparation.outcome with
    | .error error => [.returned lookup.ticket (.error error)]
    | .ok config =>
        .dialed lookup.ticket endpoint config ::
          hear lookup.ticket endpoint (surroundings.answer endpoint config)

/-- The turn in which the slot of a lookup is empty, after the connection there has been
closed. -/
def emptied
    (turn : Turn)
    (flight : Flight) : Turn :=
  match (turn.state.slotAt flight.slot).connection? with
  | none => turn
  | some connection => evict turn flight connection

/-- What is done to empty the slot of a lookup. -/
def evictions
    (surroundings : Surroundings)
    (state : CacheState)
    (flight : Flight) : List Effect :=
  match (state.slotAt flight.slot).connection? with
  | none => []
  | some connection =>
      [.notice (.evicting flight.endpoint (surroundings.stateOf connection)),
        .closed flight.ticket connection flight.endpoint (surroundings.stateOf connection)]

variable {cache : Cache} {turn : Turn} {flight : Flight}

/-! ## Emptied slots -/

section Emptied

variable (turn flight)

theorem environment_emptied :
    (emptied turn flight).surroundings.environment = turn.surroundings.environment := by
  unfold emptied
  split <;> rfl

theorem answer_emptied :
    (emptied turn flight).surroundings.answer = turn.surroundings.answer := by
  unfold emptied
  split <;> rfl

theorem effects_emptied :
    (emptied turn flight).effects =
      turn.effects ++ evictions turn.surroundings turn.state flight := by
  unfold emptied evictions
  cases (turn.state.slotAt flight.slot).connection? with
  | none => exact (List.append_nil _).symm
  | some connection => rfl

/-- A slot that is empty already is left alone. -/
theorem state_emptied :
    (emptied turn flight).state = turn.state ∨
      (emptied turn flight).state = turn.state.fill flight.slot none := by
  unfold emptied
  cases (turn.state.slotAt flight.slot).connection? with
  | none => exact Or.inl rfl
  | some connection => exact Or.inr rfl

theorem connection?_emptied (number : Ticket) :
    ((emptied turn flight).state.slotAt number).connection? =
      if number = flight.slot then none else (turn.state.slotAt number).connection? := by
  unfold emptied
  cases held : (turn.state.slotAt flight.slot).connection? with
  | none =>
      by_cases same : number = flight.slot
      · simp [same, held]
      · simp [same]
  | some connection =>
      change ((turn.state.fill flight.slot none).slotAt number).connection? = _
      rw [CacheState.slotAt_fill]
      split <;> rfl

end Emptied

/-! ## Free slots -/

/-- A lookup that boards has its turn if nobody else is at its slot. -/
theorem enters_board
    (queued : turn.state.Queued turn.surroundings.started)
    {lookup : Lookup}
    (new : lookup.ticket ∉ turn.surroundings.started)
    (unfired : turn.surroundings.hasFired lookup.token? = false)
    {endpoint : String}
    (free : turn.state.queueOf (turn.state.berth endpoint lookup.ticket) = []) :
    Enters (turn.board lookup endpoint).surroundings (turn.board lookup endpoint).state
      (turn.state.board lookup endpoint).2 := by
  have boarded := queued.board new endpoint
  refine ⟨?_, ?_, ?_⟩
  · rw [CacheState.board_snd]
    exact unfired
  · rw [CacheState.board_snd]
  · change ((turn.state.board lookup endpoint).1.slotAt _).lock.owner? = _
    rw [(boarded.regular _).owner?_eq_head?, boarded.queue, CacheState.queueOf_board,
      CacheState.board_snd, if_pos rfl, free]
    rfl

/-! ## What an attempt does -/

theorem effects_awaitDial
    (turn : Turn)
    (flight : Flight)
    (config : DialConfig) :
    (awaitDial turn flight config).effects =
      turn.effects ++ hear flight.ticket flight.endpoint
        (turn.surroundings.answer flight.endpoint config) := by
  cases answer : turn.surroundings.answer flight.endpoint config with
  | pending =>
      rw [awaitDial_of_pending answer]
      exact (List.append_nil _).symm
  | failed error =>
      rw [awaitDial_of_failed answer]
      rfl
  | connected state? =>
      rw [awaitDial_of_connected answer, effects_establish, List.append_assoc]
      rfl

theorem effects_beginDial
    (cache : Cache)
    (turn : Turn)
    (flight : Flight) :
    (cache.beginDial turn flight).effects =
      turn.effects ++ cache.ownAttempt turn.surroundings flight.lookup flight.endpoint := by
  have asked : (cache.consult turn flight).effects = turn.effects ++ _ := rfl
  cases outcome : (cache.prepare turn.surroundings.environment
      flight.lookup.authorizer).outcome with
  | error error =>
      have ends : (cache.beginDial turn flight).effects =
          (cache.consult turn flight).effects ++ [.returned flight.ticket (.error error)] := by
        rw [beginDial_of_error outcome]
        rfl
      simp only [ends, asked, ownAttempt, outcome, List.append_assoc]
      rfl
  | ok config =>
      have begun : (dial (cache.consult turn flight) flight config).effects =
          (cache.consult turn flight).effects ++
            [.dialed flight.ticket flight.endpoint config] := rfl
      rw [beginDial_of_ok outcome, effects_awaitDial, begun, asked]
      simp only [ownAttempt, outcome, List.append_assoc, List.singleton_append]
      rfl

/-- A lookup that finds nothing to hand out empties its slot and begins to dial. -/
theorem Redials.advance_eq
    (redials : cache.Redials turn.surroundings turn.state flight) :
    cache.advance turn flight = cache.beginDial (emptied turn flight) flight := by
  rw [redials.enters.advance_eq cache, enter, emptied]
  cases held : (turn.state.slotAt flight.slot).connection? with
  | none => rfl
  | some connection => simp [redials.lacks connection held]

/-- A lookup that finds nothing to hand out does what empties its slot, and then makes its
own attempt. -/
theorem Redials.effects_advance
    (redials : cache.Redials turn.surroundings turn.state flight) :
    (cache.advance turn flight).effects =
      turn.effects ++ evictions turn.surroundings turn.state flight ++
        cache.ownAttempt turn.surroundings flight.lookup flight.endpoint := by
  rw [redials.advance_eq, effects_beginDial, effects_emptied]
  simp only [ownAttempt, environment_emptied, answer_emptied]

/-- A dial that is seen to have succeeded has given its connection to the slot, and the lookup
has ended with the connection. -/
theorem Awaits.exists_establish
    {config : DialConfig}
    {state? : Option Connectivity}
    (awaits : cache.Awaits turn.surroundings turn.state flight config)
    (unfired : turn.surroundings.hasFired flight.lookup.token? = false)
    (connected : turn.surroundings.answer flight.endpoint config = .connected state?) :
    ∃ begun, cache.advance turn flight = establish begun flight state? := by
  rcases awaits with dialing | ⟨redials, prepared⟩
  · refine ⟨turn, ?_⟩
    rw [advance, unfired, dialing, ← awaitDial_of_connected connected]
    rfl
  · rw [← environment_emptied turn flight] at prepared
    rw [← answer_emptied turn flight] at connected
    refine ⟨dial (cache.consult (emptied turn flight) flight) flight config, ?_⟩
    rw [redials.advance_eq, beginDial_of_ok prepared]
    exact awaitDial_of_connected connected

theorem connection?_establish
    (turn : Turn)
    (flight : Flight)
    (state? : Option Connectivity) :
    ((establish turn flight state?).state.slotAt flight.slot).connection? =
      some flight.ticket := by
  change (((turn.state.fill flight.slot (some flight.ticket)).leave flight).slotAt
    flight.slot).connection? = _
  rw [(turn.state.departs_fill_leave flight _).connection?, if_pos rfl]

/-- An event that polls a lookup leads to the turn to which the poll leads. -/
theorem Polls.next_eq
    {event : Event}
    {moment : Turn}
    (polls : cache.Polls turn event moment flight)
    (distinct : turn.state.inFlight.Nodup) :
    cache.next turn event = cache.advance moment flight := by
  cases polls with
  | again member => exact next_poll_of_some (CacheState.flight?_ticket distinct member)
  | first new unfired => exact next_start_of_unfired new unfired

end Cache
end Switchboard
