import Switchboard.Proofs.Cache.Grounds
import Switchboard.Proofs.Cache.Order

/-!
# Eviction

Only a lookup that has the lock of a connection's slot and finds the connection not
reusable closes it.  A connection is closed once at most, and nobody gets it any more.
-/

namespace Switchboard
namespace Cache

open Trace

/-- At an event a lookup has the lock of a connection's slot, and finds the connection in
a state in which it must not be handed out. -/
def Evicts
    (cache : Cache)
    (turn : Turn)
    (event : Event)
    (closer connection : Ticket)
    (state : Connectivity) : Prop :=
  ∃ moment flight, cache.Polls turn event moment flight ∧ flight.ticket = closer ∧
    (moment.state.slotAt flight.slot).lock.owner? = some closer ∧
    (moment.state.slotAt flight.slot).connection? = some connection ∧
    state = moment.surroundings.stateOf connection ∧
    cache.policy.reusable state = false

/-- At an event a lookup is cancelled: it is polled after its token has fired. -/
def IsCancellation (turn : Turn) : Event → Prop
  | .start lookup => turn.surroundings.hasFired lookup.token? = true
  | .poll ticket => ∃ flight ∈ turn.state.flights, flight.ticket = ticket ∧
      turn.surroundings.hasFired flight.lookup.token? = true
  | .drop _ | .clear | .change _ => False

/-- How a cache closes connections. -/
structure EvictionDiscipline
    (cache : Cache)
    (turn : Turn) : Prop where
  /-- A connection is closed after it has been handed out, and is closed once at most. -/
  closed_once : ∀ earlier closer connection endpoint state later,
    turn.effects = earlier ++ .closed closer connection endpoint state :: later →
      .returned connection (.ok connection) ∈ earlier ∧
        ¬WasClosed earlier connection ∧ ¬WasClosed later connection
  /-- A connection that has been closed is not handed out any more. -/
  closed_gone : ∀ earlier closer connection endpoint state later,
    turn.effects = earlier ++ .closed closer connection endpoint state :: later →
      ∀ ticket, .returned ticket (.ok connection) ∉ later
  /-- A lookup closes one connection at most. -/
  closes_once : ∀ earlier closer connection endpoint state later,
    turn.effects = earlier ++ .closed closer connection endpoint state :: later →
      ¬HasClosed earlier closer ∧ ¬HasClosed later closer
  /-- A lookup dials once at most, and closes nothing afterwards. -/
  dials_once : ∀ earlier ticket endpoint config later,
    turn.effects = earlier ++ .dialed ticket endpoint config :: later →
      ¬HasDialed earlier ticket ∧ ¬HasDialed later ticket ∧ ¬HasClosed later ticket
  /-- Whoever closes a connection evicts it under the lock of its slot. -/
  evicts : ∀ event closer connection endpoint state,
    .closed closer connection endpoint state ∈
        (cache.step turn.surroundings turn.state event).effects →
      cache.Evicts turn event closer connection state
  /-- Whoever gets a connection that somebody else has dialed gets it in a state in which
  it may be handed out. -/
  reuses : ∀ event ticket connection,
    .returned ticket (.ok connection) ∈
        (cache.step turn.surroundings turn.state event).effects →
      connection ≠ ticket →
        cache.policy.reusable (turn.surroundings.stateOf connection) = true
  /-- Nothing is closed when the cache is cleared or a lookup is dropped or cancelled. -/
  spares : ∀ event,
    event = .clear ∨ (∃ ticket, event = .drop ticket) ∨ IsCancellation turn event →
      ∀ connection,
        ¬WasClosed (cache.step turn.surroundings turn.state event).effects connection
  /-- If connections count as healthy always, none is closed. -/
  healthy : cache.policy = .alwaysHealthy →
    ∀ connection, ¬WasClosed turn.effects connection

variable {cache : Cache} {span : Ticket → Option LookupSpan} {turn : Turn}
  {earlier later : List Effect}

/-- What is due before a later effect of two. -/
theorem IsOrderly.due_of_mem
    {first second : Effect}
    (orderly : cache.IsOrderly span (earlier ++ first :: later))
    (member : second ∈ later) :
    ∃ between rest, later = between ++ second :: rest ∧
      cache.Due span (earlier ++ first :: between) second := by
  obtain ⟨between, rest, rfl⟩ := List.append_of_mem member
  refine ⟨between, rest, rfl, orderly _ second rest ?_⟩
  rw [List.append_assoc, List.cons_append]

section Closing

variable {closer connection : Ticket} {endpoint : String} {state : Connectivity}

theorem IsOrderly.not_wasClosed_later
    (orderly : cache.IsOrderly span
      (earlier ++ .closed closer connection endpoint state :: later)) :
    ¬WasClosed later connection := by
  rintro ⟨other, otherEndpoint, otherState, member⟩
  obtain ⟨between, rest, -, -, -, unclosed, -⟩ := orderly.due_of_mem member
  exact unclosed ⟨closer, endpoint, state,
    List.mem_append_right _ List.mem_cons_self⟩

/-- A connection that has been closed is not handed out any more. -/
theorem IsOrderly.not_returned_later
    (orderly : cache.IsOrderly span
      (earlier ++ .closed closer connection endpoint state :: later))
    (ticket : Ticket) :
    .returned ticket (.ok connection) ∉ later := by
  intro member
  obtain ⟨between, rest, -, unclosed, -⟩ := orderly.due_of_mem member
  exact unclosed ⟨closer, endpoint, state,
    List.mem_append_right _ List.mem_cons_self⟩

theorem IsOrderly.not_hasClosed_later
    (orderly : cache.IsOrderly span
      (earlier ++ .closed closer connection endpoint state :: later)) :
    ¬HasClosed later closer := by
  rintro ⟨other, otherEndpoint, otherState, member⟩
  obtain ⟨between, rest, -, -, -, -, idle, -⟩ := orderly.due_of_mem member
  exact idle ⟨connection, endpoint, state, List.mem_append_right _ List.mem_cons_self⟩

end Closing

/-- A lookup that has dialed neither dials nor closes anything afterwards. -/
theorem IsOrderly.not_hasDialed_later
    {ticket : Ticket}
    {endpoint : String}
    {config : DialConfig}
    (orderly : cache.IsOrderly span
      (earlier ++ .dialed ticket endpoint config :: later)) :
    ¬HasDialed later ticket ∧ ¬HasClosed later ticket := by
  constructor
  · rintro ⟨otherEndpoint, otherConfig, member⟩
    obtain ⟨between, rest, -, undialed⟩ := orderly.due_of_mem member
    exact undialed ⟨endpoint, config, List.mem_append_right _ List.mem_cons_self⟩
  · rintro ⟨connection, otherEndpoint, state, member⟩
    obtain ⟨between, rest, -, -, -, -, -, undialed⟩ := orderly.due_of_mem member
    exact undialed ⟨endpoint, config, List.mem_append_right _ List.mem_cons_self⟩

/-- If connections count as healthy always, an orderly trace closes none. -/
theorem IsOrderly.not_wasClosed_of_alwaysHealthy
    {effects : List Effect}
    (orderly : cache.IsOrderly span effects)
    (healthy : cache.policy = .alwaysHealthy)
    (connection : Ticket) :
    ¬WasClosed effects connection := by
  rintro ⟨closer, endpoint, state, member⟩
  obtain ⟨before, after, rfl⟩ := List.append_of_mem member
  have stale := (orderly before _ after rfl).1
  rw [healthy] at stale
  exact Bool.noConfusion stale

/-- Whoever closes a connection evicts it. -/
theorem evicts_of_closed
    {event : Event}
    {closer connection : Ticket}
    {endpoint : String}
    {state : Connectivity}
    (closes : .closed closer connection endpoint state ∈
      (cache.step turn.surroundings turn.state event).effects) :
    cache.Evicts turn event closer connection state := by
  rcases grounds_step closes with
    ⟨moment, flight, polls, rfl, -, enters, held, reported, stale⟩ | ⟨lookup, -, -, equal⟩ |
      ⟨notice, equal⟩
  · exact ⟨moment, flight, polls, rfl, enters.owns, held, reported, stale⟩
  · cases equal
  · cases equal

/-- Whoever gets a connection that somebody else has dialed finds it reusable. -/
theorem reusable_of_returned
    {event : Event}
    {ticket connection : Ticket}
    (returns : .returned ticket (.ok connection) ∈
      (cache.step turn.surroundings turn.state event).effects)
    (foreign : connection ≠ ticket) :
    cache.policy.reusable (turn.surroundings.stateOf connection) = true := by
  rcases grounds_step returns with
    ⟨moment, flight, polls, rfl, ends⟩ | ⟨lookup, -, -, equal⟩ | ⟨notice, equal⟩
  · rcases ends with ⟨own, -⟩ | ⟨-, -, reusable⟩
    · exact absurd own foreign
    · cases polls with
      | again member => exact reusable
      | first new unfired => exact reusable
  · cases equal
  · cases equal

/-- A lookup that is cancelled closes nothing. -/
theorem not_wasClosed_of_isCancellation
    {event : Event}
    {started : List Ticket}
    (queued : turn.state.Queued started)
    (cancelled : IsCancellation turn event)
    (connection : Ticket) :
    ¬WasClosed (cache.step turn.surroundings turn.state event).effects connection := by
  rintro ⟨closer, endpoint, state, closes⟩
  rcases grounds_step closes with
    ⟨moment, flight, polls, -, -, enters, -⟩ | ⟨lookup, -, -, equal⟩ | ⟨notice, equal⟩
  · cases polls with
    | again member =>
        obtain ⟨other, otherMember, same, fired⟩ := cancelled
        rw [queued.eq_of_ticket_eq otherMember member same, enters.unfired] at fired
        exact Bool.false_ne_true fired
    | first new unfired =>
        have fired : turn.surroundings.hasFired _ = true := cancelled
        rw [unfired] at fired
        exact Bool.false_ne_true fired
  · cases equal
  · cases equal

/-- An event that polls nobody closes nothing. -/
theorem not_wasClosed_of_not_polls
    {event : Event}
    (idle : ∀ moment flight, ¬cache.Polls turn event moment flight)
    (connection : Ticket) :
    ¬WasClosed (cache.step turn.surroundings turn.state event).effects connection := by
  rintro ⟨closer, endpoint, state, closes⟩
  obtain ⟨moment, flight, polls, -⟩ := evicts_of_closed closes
  exact idle moment flight polls

/-- After every history the cache keeps its discipline. -/
theorem evictionDiscipline_after
    (cache : Cache)
    (surroundings : Surroundings)
    (events : List Event) :
    cache.EvictionDiscipline (cache.after surroundings events) where
  closed_once earlier closer connection endpoint state later whole := by
    have orderly := (cache.reached_end surroundings events).orderly
    obtain ⟨-, handedOut, unclosed, -⟩ := orderly _ _ _ whole
    rw [whole] at orderly
    exact ⟨handedOut, unclosed, orderly.not_wasClosed_later⟩
  closed_gone earlier closer connection endpoint state later whole := by
    have orderly := (cache.reached_end surroundings events).orderly
    rw [whole] at orderly
    exact orderly.not_returned_later
  closes_once earlier closer connection endpoint state later whole := by
    have orderly := (cache.reached_end surroundings events).orderly
    obtain ⟨-, -, -, idle, -⟩ := orderly _ _ _ whole
    rw [whole] at orderly
    exact ⟨idle, orderly.not_hasClosed_later⟩
  dials_once earlier ticket endpoint config later whole := by
    have orderly := (cache.reached_end surroundings events).orderly
    have undialed := orderly _ _ _ whole
    rw [whole] at orderly
    exact ⟨undialed, orderly.not_hasDialed_later⟩
  evicts event closer connection endpoint state closes := evicts_of_closed closes
  reuses event ticket connection returns foreign := reusable_of_returned returns foreign
  spares := by
    have reached := cache.reached_end surroundings events
    rintro event (rfl | ⟨ticket, rfl⟩ | cancelled)
    · apply not_wasClosed_of_not_polls
      intro moment flight polls
      cases polls
    · apply not_wasClosed_of_not_polls
      intro moment flight polls
      cases polls
    · exact not_wasClosed_of_isCancellation reached.queued cancelled
  healthy healthy connection := by
    have orderly := (cache.reached_end surroundings events).orderly
    exact orderly.not_wasClosed_of_alwaysHealthy healthy connection

end Cache
end Switchboard
