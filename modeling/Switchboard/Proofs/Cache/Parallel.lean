import Switchboard.Proofs.Cache.Acts
import Switchboard.Proofs.Cache.Trace

/-!
# Polls in parallel

A poll sees little of a turn: the environment, how dials stand, the slot of the lookup and
the state of the connection there.  It changes the turn by a few moves: it records effects,
lets connections report, fills or empties the slot, begins to dial, and leaves.  Where two
turns show a lookup the same, and where each of these moves keeps them related, a whole
poll keeps them related.
-/

namespace Switchboard

/-- No other lookup than one has some effects. -/
def AreOf
    (ticket : Ticket)
    (effects : List Effect) : Prop :=
  ∀ effect ∈ effects, ∀ other, effect.ticket? = some other → other = ticket

/-- A notice is an effect of any lookup. -/
theorem areOf_notice
    (ticket : Ticket)
    (notice : Notice) :
    AreOf ticket [.notice notice] := by
  intro effect member other named
  rw [List.mem_singleton.mp member] at named
  cases named

theorem areOf_returned
    (ticket : Ticket)
    (outcome : Outcome) :
    AreOf ticket [.returned ticket outcome] := by
  intro effect member other named
  rw [List.mem_singleton.mp member] at named
  exact (Option.some.inj named).symm

/-- The turn in which a connection reports a state. -/
def Turn.report
    (turn : Turn)
    (connection : Ticket)
    (state : Connectivity) : Turn :=
  { turn with surroundings := turn.surroundings.report connection state }

namespace Cache

/-- Related turns show the same to a lookup in the one and to its double in the other, and
whatever move both make keeps the turns related. -/
structure Parallel
    (relation : Turn → Turn → Prop)
    (flight double : Flight) : Prop where
  ticket : double.ticket = flight.ticket
  endpoint : double.endpoint = flight.endpoint
  slot : double.slot = flight.slot
  authorizer : double.lookup.authorizer = flight.lookup.authorizer
  /-- Both see the same environment. -/
  environment : ∀ {turn other}, relation turn other →
    other.surroundings.environment = turn.surroundings.environment
  /-- Both see dials stand in the same way. -/
  answer : ∀ {turn other}, relation turn other →
    other.surroundings.answer = turn.surroundings.answer
  /-- Both see the same slot. -/
  slotAt : ∀ {turn other}, relation turn other →
    other.state.slotAt flight.slot = turn.state.slotAt flight.slot
  /-- Both see the connection in their slot in the same state. -/
  stateOf : ∀ {turn other connection}, relation turn other →
    (turn.state.slotAt flight.slot).connection? = some connection →
      other.surroundings.stateOf connection = turn.surroundings.stateOf connection
  /-- Both record what they do. -/
  record : ∀ {turn other}, relation turn other → ∀ effects, AreOf flight.ticket effects →
    relation (turn.record effects) (other.record effects)
  /-- Both learn that their connection reports a state, or the one in their slot. -/
  report : ∀ {turn other}, relation turn other → ∀ connection state,
    connection = flight.ticket ∨
        (turn.state.slotAt flight.slot).connection? = some connection →
      relation (turn.report connection state) (other.report connection state)
  /-- Both empty their slot, or fill it with their own connection. -/
  fill : ∀ {turn other}, relation turn other → ∀ connection?,
    (∀ connection, connection? = some connection → connection = flight.ticket) →
      relation { turn with state := turn.state.fill flight.slot connection? }
        { other with state := other.state.fill flight.slot connection? }
  /-- Both begin to dial. -/
  markDialing : ∀ {turn other}, relation turn other → ∀ config,
    relation { turn with state := turn.state.markDialing flight config }
      { other with state := other.state.markDialing double config }
  /-- Both leave. -/
  leave : ∀ {turn other}, relation turn other →
    relation { turn with state := turn.state.leave flight }
      { other with state := other.state.leave double }

namespace Parallel

variable {relation : Turn → Turn → Prop} {flight double : Flight} {turn other : Turn}

/-- Two lookups end with one outcome in parallel. -/
theorem finish
    (parallel : Parallel relation flight double)
    (related : relation turn other)
    (outcome : Outcome) :
    relation (turn.finish flight outcome) (other.finish double outcome) := by
  rw [Turn.finish, Turn.finish, parallel.ticket]
  exact parallel.record (parallel.leave related) _ (areOf_returned _ _)

/-- Two lookups consult their authorizers in parallel. -/
theorem consult
    (parallel : Parallel relation flight double)
    (related : relation turn other)
    (cache : Cache) :
    relation (cache.consult turn flight) (cache.consult other double) := by
  simp only [Cache.consult, parallel.environment related, parallel.authorizer,
    parallel.ticket]
  apply parallel.record related
  intro effect member other named
  rw [List.mem_append, List.mem_map, List.mem_map] at member
  rcases member with ⟨question, -, rfl⟩ | ⟨notice, -, rfl⟩
  · exact (Option.some.inj named).symm
  · cases named

/-- Two lookups dial with one config in parallel. -/
theorem dial
    (parallel : Parallel relation flight double)
    (related : relation turn other)
    (config : DialConfig) :
    relation (Cache.dial turn flight config) (Cache.dial other double config) := by
  rw [Cache.dial, Cache.dial, parallel.ticket, parallel.endpoint]
  have begun := parallel.markDialing
    (parallel.report related flight.ticket .ready (Or.inl rfl)) config
  apply parallel.record begun
  intro effect member other named
  rw [List.mem_singleton.mp member] at named
  exact (Option.some.inj named).symm

theorem establish
    (parallel : Parallel relation flight double)
    (related : relation turn other)
    (state? : Option Connectivity) :
    relation (Cache.establish turn flight state?) (Cache.establish other double state?) := by
  rw [Cache.establish, Cache.establish, parallel.ticket, parallel.endpoint, parallel.slot]
  apply parallel.finish
  refine parallel.record ?_ _ (areOf_notice _ _)
  have own : ∀ connection, some flight.ticket = some connection →
      connection = flight.ticket := by
    intro connection same
    exact (Option.some.inj same).symm
  cases state? with
  | none => exact parallel.fill related (some flight.ticket) own
  | some state =>
      exact parallel.fill (parallel.report related flight.ticket state (Or.inl rfl))
        (some flight.ticket) own

/-- Two lookups close the connection their slot holds in parallel. -/
theorem evict
    (parallel : Parallel relation flight double)
    (related : relation turn other)
    {connection : Ticket}
    (held : (turn.state.slotAt flight.slot).connection? = some connection) :
    relation (Cache.evict turn flight connection) (Cache.evict other double connection) := by
  simp only [Cache.evict, parallel.stateOf related held, parallel.ticket,
    parallel.endpoint, parallel.slot]
  have reported := parallel.report related connection .shutdown (Or.inr held)
  refine parallel.record (parallel.fill reported none (by simp)) _ ?_
  intro effect member other named
  simp only [List.mem_cons, List.not_mem_nil, or_false] at member
  rcases member with rfl | rfl
  · cases named
  · exact (Option.some.inj named).symm

/-- Two lookups wait for their dials in parallel. -/
theorem awaitDial
    (parallel : Parallel relation flight double)
    (related : relation turn other)
    (config : DialConfig) :
    relation (Cache.awaitDial turn flight config) (Cache.awaitDial other double config) := by
  have answers : other.surroundings.answer double.endpoint config =
      turn.surroundings.answer flight.endpoint config := by
    rw [parallel.answer related, parallel.endpoint]
  cases answer : turn.surroundings.answer flight.endpoint config with
  | pending =>
      rw [answer] at answers
      rw [awaitDial_of_pending answer, awaitDial_of_pending answers]
      exact related
  | failed error =>
      rw [answer] at answers
      rw [awaitDial_of_failed answer, awaitDial_of_failed answers]
      exact parallel.finish related _
  | connected state? =>
      rw [answer] at answers
      rw [awaitDial_of_connected answer, awaitDial_of_connected answers]
      exact parallel.establish related state?

theorem beginDial
    (parallel : Parallel relation flight double)
    (related : relation turn other)
    (cache : Cache) :
    relation (cache.beginDial turn flight) (cache.beginDial other double) := by
  have prepares : (cache.prepare other.surroundings.environment
        double.lookup.authorizer).outcome =
      (cache.prepare turn.surroundings.environment
        flight.lookup.authorizer).outcome := by
    rw [parallel.environment related, parallel.authorizer]
  have asked := parallel.consult related cache
  cases outcome : (cache.prepare turn.surroundings.environment
      flight.lookup.authorizer).outcome with
  | error error =>
      rw [outcome] at prepares
      rw [beginDial_of_error outcome, beginDial_of_error prepares]
      exact parallel.finish asked _
  | ok config =>
      rw [outcome] at prepares
      rw [beginDial_of_ok outcome, beginDial_of_ok prepares]
      exact parallel.awaitDial (parallel.dial asked config) config

/-- Two lookups that have their slot's lock go on in parallel. -/
theorem enter
    (parallel : Parallel relation flight double)
    (related : relation turn other)
    (cache : Cache) :
    relation (cache.enter turn flight) (cache.enter other double) := by
  unfold Cache.enter
  rw [parallel.slot, parallel.slotAt related]
  cases held : (turn.state.slotAt flight.slot).connection? with
  | none => exact parallel.beginDial related cache
  | some connection =>
      dsimp only
      rw [parallel.stateOf related held, parallel.endpoint]
      split
      · exact parallel.finish (parallel.record related _ (areOf_notice _ _)) _
      · exact parallel.beginDial (parallel.evict related held) cache

/-- A poll of a lookup and a poll of its double keep the turns related. -/
theorem advance
    (parallel : Parallel relation flight double)
    (related : relation turn other)
    (cache : Cache)
    (phase : double.phase = flight.phase)
    (fired : other.surroundings.hasFired double.lookup.token? =
      turn.surroundings.hasFired flight.lookup.token?) :
    relation (cache.advance turn flight) (cache.advance other double) := by
  unfold Cache.advance
  rw [fired, phase, parallel.endpoint, parallel.slot, parallel.ticket,
    parallel.slotAt related]
  split
  · exact parallel.finish related _
  · cases flight.phase with
    | dialing config => exact parallel.awaitDial related config
    | queued =>
        dsimp only
        split
        · exact parallel.enter related cache
        · exact related

end Parallel
end Cache
end Switchboard
