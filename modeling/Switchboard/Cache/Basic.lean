import Switchboard.Cache.Effect

/-!
# Caches of connections

A cache hands out one connection per endpoint.  A lookup moves only when it is
polled.  When it has its slot's lock it hands out the connection there if the
health policy allows that; otherwise it closes the connection, asks its
authorizer, dials, and puts the new connection into the slot.  Whenever a lookup
ends, is dropped or is cancelled, the lock passes on.
-/

namespace Switchboard

/-- How a cache is set up. -/
structure Cache where
  /-- The family of its endpoints. -/
  family : Family
  /-- When a connection may be handed out again. -/
  policy : HealthPolicy
  /-- What decides whether agents are dialed unsecured. -/
  debug : DebugSwitch
  /-- The timeouts of all that it dials. -/
  timeouts : Timeouts

namespace Cache

/-- The cache of a family with its own policy and without timeouts. -/
def ofFamily
    (family : Family)
    (debug : DebugSwitch) : Cache :=
  ⟨family, .ofFamily family, debug, .none⟩

/-- What happens before a lookup dials. -/
def prepare
    (cache : Cache)
    (environment : Environment)
    (authorizer : Authorizer) : Preparation :=
  cache.family.prepare authorizer (cache.debug.isOn environment) cache.timeouts

/-- A lookup looks how its dial stands. -/
def awaitDial
    (turn : Turn)
    (flight : Flight)
    (config : DialConfig) : Turn :=
  match turn.surroundings.answer flight.endpoint config with
  | .pending => turn
  | .failed error => turn.finish flight (.error error)
  | .connected state? =>
      let surroundings :=
        state?.elim turn.surroundings (turn.surroundings.report flight.ticket)
      let filled := turn.state.fill flight.slot (some flight.ticket)
      let established : Turn := ⟨surroundings, filled, turn.effects⟩
      (established.record [.notice (.established flight.endpoint)]).finish flight
        (.ok flight.ticket)

/-- A lookup whose slot is empty asks its authorizer and dials. -/
def beginDial
    (cache : Cache)
    (turn : Turn)
    (flight : Flight) : Turn :=
  let preparation :=
    cache.prepare turn.surroundings.environment flight.lookup.authorizer
  let prepared :=
    turn.record
      (preparation.questions.map (.consulted flight.ticket) ++
        preparation.notices.map .notice)
  match preparation.outcome with
  | .error error => prepared.finish flight (.error error)
  | .ok config =>
      let dialing : Turn :=
        ⟨prepared.surroundings.report flight.ticket .ready,
          prepared.state.markDialing flight config,
          prepared.effects⟩
      awaitDial (dialing.record [.dialed flight.ticket flight.endpoint config])
        flight config

/-- A lookup closes the connection in its slot. -/
def evict
    (turn : Turn)
    (flight : Flight)
    (connection : Ticket) : Turn :=
  let state := turn.surroundings.stateOf connection
  let emptied : Turn :=
    ⟨turn.surroundings.report connection .shutdown,
      turn.state.fill flight.slot none,
      turn.effects⟩
  emptied.record
    [.notice (.evicting flight.endpoint state),
      .closed flight.ticket connection flight.endpoint state]

/-- A lookup that has its slot's lock hands out the connection there, or dials. -/
def enter
    (cache : Cache)
    (turn : Turn)
    (flight : Flight) : Turn :=
  match (turn.state.slotAt flight.slot).connection? with
  | none => cache.beginDial turn flight
  | some connection =>
      let state := turn.surroundings.stateOf connection
      if cache.policy.reusable state then
        (turn.record [.notice (.reusing flight.endpoint state)]).finish flight
          (.ok connection)
      else
        cache.beginDial (evict turn flight connection) flight

/-- A lookup under way is polled; its token comes first. -/
def advance
    (cache : Cache)
    (turn : Turn)
    (flight : Flight) : Turn :=
  if turn.surroundings.hasFired flight.lookup.token? then
    turn.finish flight (.error (.cancelled flight.endpoint))
  else
    match flight.phase with
    | .dialing config => awaitDial turn flight config
    | .queued =>
        if (turn.state.slotAt flight.slot).lock.owner? = some flight.ticket then
          cache.enter turn flight
        else
          turn

/-- A lookup is started and polled for the first time.  A lookup whose token has
fired ends before it has touched anything; a number that has been given before
starts nothing. -/
def start
    (cache : Cache)
    (surroundings : Surroundings)
    (state : CacheState)
    (lookup : Lookup) : Turn :=
  if surroundings.started.contains lookup.ticket then
    ⟨surroundings, state, []⟩
  else
    let endpoint := cache.family.resolve lookup.address
    let registered := surroundings.register lookup.ticket
    if surroundings.hasFired lookup.token? then
      ⟨registered, state, [.returned lookup.ticket (.error (.cancelled endpoint))]⟩
    else
      let (boarded, flight) := state.board lookup endpoint
      cache.advance ⟨registered, boarded, []⟩ flight

/-- A lookup under way is polled again. -/
def poll
    (cache : Cache)
    (surroundings : Surroundings)
    (state : CacheState)
    (ticket : Ticket) : Turn :=
  match state.flight? ticket with
  | none => ⟨surroundings, state, []⟩
  | some flight => cache.advance ⟨surroundings, state, []⟩ flight

/-- A lookup under way is given up by the one who started it. -/
def drop
    (surroundings : Surroundings)
    (state : CacheState)
    (ticket : Ticket) : Turn :=
  match state.flight? ticket with
  | none => ⟨surroundings, state, []⟩
  | some flight => ⟨surroundings, state.leave flight, []⟩

/-- The cache forgets its endpoints, and closes nothing. -/
def clear
    (cache : Cache)
    (surroundings : Surroundings)
    (state : CacheState) : Turn :=
  ⟨surroundings, state.clear, [.notice (.clearing state.places.size cache.family)]⟩

/-- Whether an address has a connection, or one on its way. -/
def contains
    (cache : Cache)
    (state : CacheState)
    (address : String) : Bool :=
  state.holds (cache.family.resolve address)

end Cache
end Switchboard
