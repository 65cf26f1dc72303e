import Switchboard.Proofs.Cache.State

/-!
# How lookups queue

The lock of every slot is queued for by exactly the lookups under way that have the
slot, in the order of their starts.  Hence a slot with lookups has one owner, the
lookup that was started first, and only an owner dials.
-/

namespace Switchboard
namespace CacheState

/-- The lookups under way queue for the locks of their slots. -/
structure Queued
    (state : CacheState)
    (started : List Ticket) : Prop where
  /-- No number is given twice. -/
  distinct : state.inFlight.Nodup
  /-- Lookups under way have been started, and so have those that made their slots. -/
  flights_started : ∀ flight ∈ state.flights,
    flight.ticket ∈ started ∧ flight.slot ∈ started
  /-- Only slots that have been made have places. -/
  places_started : ∀ endpoint number,
    state.places.find? endpoint = some number → number ∈ started
  /-- Only slots that have been made have connections. -/
  slots_started : ∀ number connection,
    (state.slotAt number).connection? = some connection → number ∈ started
  /-- The lookup that dialed a connection has ended. -/
  connections_over : ∀ number connection,
    (state.slotAt number).connection? = some connection →
      connection ∈ started ∧ connection ∉ state.inFlight
  /-- A lock with waiters has an owner. -/
  regular : ∀ number, (state.slotAt number).lock.IsRegular
  /-- A lock is queued for by the lookups of its slot, in the order of their starts. -/
  queue : ∀ number, (state.slotAt number).lock.queue = state.queueOf number
  /-- A lookup that dials has the lock of its slot, and the slot is empty. -/
  dialing : ∀ flight ∈ state.flights, flight.isDialing = true →
    (state.slotAt flight.slot).lock.owner? = some flight.ticket ∧
      (state.slotAt flight.slot).connection? = none

theorem queued_empty (started : List Ticket) : Queued empty started where
  distinct := List.nodup_nil
  flights_started := by
    intro flight member
    exact absurd member List.not_mem_nil
  places_started := by
    intro endpoint number placed
    exact absurd placed nofun
  slots_started := by
    intro number connection held
    exact absurd held nofun
  connections_over := by
    intro number connection held
    exact absurd held nofun
  regular := fun _ => Lock.isRegular_idle
  queue := fun _ => rfl
  dialing := by
    intro flight member
    exact absurd member List.not_mem_nil

namespace Queued

variable {started : List Ticket} {state next : CacheState}

theorem mono
    (queued : Queued state started)
    {more : List Ticket}
    (grown : started ⊆ more) :
    Queued state more where
  distinct := queued.distinct
  flights_started := by
    intro flight member
    have known := queued.flights_started flight member
    exact ⟨grown known.1, grown known.2⟩
  places_started := by
    intro endpoint number placed
    exact grown (queued.places_started endpoint number placed)
  slots_started := by
    intro number connection held
    exact grown (queued.slots_started number connection held)
  connections_over := by
    intro number connection held
    have known := queued.connections_over number connection held
    exact ⟨grown known.1, known.2⟩
  regular := queued.regular
  queue := queued.queue
  dialing := queued.dialing

/-! ## What the queues say -/

/-- Lookups under way with one number are one. -/
theorem eq_of_ticket_eq
    (queued : Queued state started)
    {left right : Flight}
    (leftMember : left ∈ state.flights)
    (rightMember : right ∈ state.flights)
    (same : left.ticket = right.ticket) :
    left = right :=
  List.inj_on_of_nodup_map queued.distinct leftMember rightMember same

theorem nodup_queue
    (queued : Queued state started)
    (number : Ticket) :
    (state.slotAt number).lock.queue.Nodup := by
  rw [queued.queue]
  exact queued.distinct.sublist (List.filter_sublist.map _)

theorem mem_queue
    (queued : Queued state started)
    {flight : Flight}
    (member : flight ∈ state.flights) :
    flight.ticket ∈ (state.slotAt flight.slot).lock.queue := by
  rw [queued.queue, mem_queueOf]
  exact ⟨flight, member, rfl, rfl⟩

/-- A slot with a lookup is locked. -/
theorem isTaken_of_mem
    (queued : Queued state started)
    {flight : Flight}
    (member : flight ∈ state.flights) :
    (state.slotAt flight.slot).lock.isTaken = true := by
  have waits := queued.mem_queue member
  by_contra free
  rw [Bool.not_eq_true, (queued.regular flight.slot).isTaken_eq_false_iff] at free
  rw [free] at waits
  exact List.not_mem_nil waits

/-- A slot is free exactly when no lookup under way has it. -/
theorem isTaken_eq_false_iff
    (queued : Queued state started)
    (number : Ticket) :
    (state.slotAt number).lock.isTaken = false ↔
      ∀ flight ∈ state.flights, flight.slot ≠ number := by
  constructor
  · intro free flight member same
    subst same
    rw [queued.isTaken_of_mem member] at free
    exact Bool.noConfusion free
  · intro unused
    rw [(queued.regular number).isTaken_eq_false_iff, queued.queue, queueOf,
      List.map_eq_nil_iff, List.filter_eq_nil_iff]
    intro flight member
    simpa using unused flight member

/-- The slots of two dialing lookups differ. -/
theorem eq_of_dialing
    (queued : Queued state started)
    {left right : Flight}
    (leftMember : left ∈ state.flights)
    (rightMember : right ∈ state.flights)
    (leftDialing : left.isDialing = true)
    (rightDialing : right.isDialing = true)
    (same : left.slot = right.slot) :
    left = right := by
  have leftOwns := (queued.dialing left leftMember leftDialing).1
  have rightOwns := (queued.dialing right rightMember rightDialing).1
  rw [same, rightOwns, Option.some.injEq] at leftOwns
  exact queued.eq_of_ticket_eq leftMember rightMember leftOwns.symm

/-- A lookup whose slot has a connection is not dialing. -/
theorem phase_eq_queued_of_held
    (queued : Queued state started)
    {flight : Flight}
    {connection : Ticket}
    (member : flight ∈ state.flights)
    (held : (state.slotAt flight.slot).connection? = some connection) :
    flight.phase = .queued := by
  apply Flight.phase_eq_queued
  intro dialing
  have empty := (queued.dialing flight member dialing).2
  rw [held] at empty
  cases empty

/-- A number that has not been given is no number of a slot. -/
theorem slotAt_eq_vacant
    (queued : Queued state started)
    {ticket : Ticket}
    (new : ticket ∉ started) :
    state.slotAt ticket = .vacant := by
  have empty : (state.slotAt ticket).connection? = none := by
    rw [Option.eq_none_iff_forall_ne_some]
    intro connection held
    exact new (queued.slots_started ticket connection held)
  have unwanted : (state.slotAt ticket).lock.queue = [] := by
    rw [queued.queue, queueOf, List.map_eq_nil_iff, List.filter_eq_nil_iff]
    intro flight member
    have known := (queued.flights_started flight member).2
    rw [decide_eq_true_eq]
    rintro rfl
    exact new known
  have unowned : (state.slotAt ticket).lock.owner? = none := by
    rw [(queued.regular ticket).owner?_eq_head?, unwanted]
    rfl
  have noWaiters := queued.regular ticket unowned
  cases slot : state.slotAt ticket with
  | mk connection? lock =>
      cases lock with
      | mk owner? waiters =>
          rw [slot] at empty unowned noWaiters
          subst empty unowned noWaiters
          rfl

/-! ## What keeps the queues -/

/-- A lookup with a new number boards. -/
theorem board
    (queued : Queued state started)
    {lookup : Lookup}
    (new : lookup.ticket ∉ started)
    (endpoint : String) :
    Queued (state.board lookup endpoint).1 (started ++ [lookup.ticket]) := by
  have vacant := queued.slotAt_eq_vacant new
  have berth_started : state.berth endpoint lookup.ticket ∈ started ++ [lookup.ticket] := by
    rw [berth]
    cases placed : state.places.find? endpoint with
    | none => exact List.mem_concat_self
    | some number =>
        exact List.mem_append_left _ (queued.places_started endpoint number placed)
  constructor
  case distinct =>
    rw [inFlight_board, ← List.concat_eq_append, List.nodup_concat]
    refine ⟨?_, queued.distinct⟩
    intro member
    obtain ⟨flight, flightMember, same⟩ := List.mem_map.mp member
    exact new (same ▸ (queued.flights_started flight flightMember).1)
  case flights_started =>
    intro flight member
    rw [flights_board, board_snd, List.mem_append, List.mem_singleton] at member
    rcases member with old | rfl
    · have known := queued.flights_started flight old
      exact ⟨List.mem_append_left _ known.1, List.mem_append_left _ known.2⟩
    · exact ⟨List.mem_concat_self, berth_started⟩
  case places_started =>
    intro other number placed
    rw [find?_places_board] at placed
    split at placed
    · rw [Option.some.injEq] at placed
      exact placed ▸ berth_started
    · exact List.mem_append_left _ (queued.places_started other number placed)
  case slots_started =>
    intro number connection held
    rw [connection?_board vacant] at held
    exact List.mem_append_left _ (queued.slots_started number connection held)
  case connections_over =>
    intro number connection held
    rw [connection?_board vacant] at held
    have ended := queued.connections_over number connection held
    refine ⟨List.mem_append_left _ ended.1, ?_⟩
    rw [inFlight_board, List.mem_append, List.mem_singleton]
    rintro (member | rfl)
    · exact ended.2 member
    · exact new ended.1
  case regular =>
    intro number
    rw [slotAt_board vacant]
    split
    · exact Lock.isRegular_request _ _
    · exact queued.regular number
  case queue =>
    intro number
    rw [slotAt_board vacant, queueOf_board, ← queued.queue]
    split
    · exact (queued.regular number).queue_request _
    · rfl
  case dialing =>
    intro flight member dialing
    rw [flights_board, board_snd, List.mem_append, List.mem_singleton] at member
    rcases member with old | rfl
    · have owns := queued.dialing flight old dialing
      refine ⟨?_, (connection?_board vacant _ _).trans owns.2⟩
      rw [slotAt_board vacant]
      split
      · exact Lock.owner?_request_of_eq_some owns.1 _
      · exact owns.1
    · exact Bool.noConfusion dialing

/-- A lookup departs.  What it leaves in its slot was there before, or is the connection
that it has dialed itself as the owner of the slot. -/
theorem departs
    (queued : Queued state started)
    {flight : Flight}
    {kept? : Option Ticket}
    (member : flight ∈ state.flights)
    (departs : state.Departs flight kept? next)
    (kept : ∀ connection, kept? = some connection →
      (state.slotAt flight.slot).connection? = some connection ∨
        connection = flight.ticket ∧
          (state.slotAt flight.slot).lock.owner? = some flight.ticket) :
    Queued next started := by
  constructor
  case distinct =>
    rw [departs.inFlight]
    exact queued.distinct.filter _
  case flights_started =>
    intro other otherMember
    exact queued.flights_started other (departs.mem_flights_iff.mp otherMember).1
  case places_started =>
    intro endpoint number placed
    rw [departs.places] at placed
    split at placed
    · cases placed
    · exact queued.places_started endpoint number placed
  case slots_started =>
    intro number connection held
    rw [departs.connection?] at held
    split at held
    · next same => exact same ▸ (queued.flights_started flight member).2
    · exact queued.slots_started number connection held
  case connections_over =>
    intro number connection held
    rw [departs.inFlight]
    have remains : connection ∈ started ∧ connection ∉ state.inFlight →
        connection ∈ started ∧ connection ∉ state.inFlight.filter (· ≠ flight.ticket) := by
      rintro ⟨known, ended⟩
      exact ⟨known, fun present => ended (List.mem_of_mem_filter present)⟩
    rw [departs.connection?] at held
    split at held
    · rcases kept connection held with before | ⟨rfl, -⟩
      · exact remains (queued.connections_over _ _ before)
      · refine ⟨(queued.flights_started flight member).1, ?_⟩
        simp
    · exact remains (queued.connections_over _ _ held)
  case regular =>
    intro number
    rw [departs.lock]
    split
    · exact (queued.regular number).leave _
    · exact queued.regular number
  case queue =>
    intro number
    rw [departs.lock, departs.queueOf, ← queued.queue]
    split
    · exact (queued.regular number).queue_leave (queued.nodup_queue number) _
    · next other =>
        symm
        rw [List.filter_eq_self]
        intro ticket waits
        rw [queued.queue, mem_queueOf] at waits
        obtain ⟨waiting, waitingMember, slot, rfl⟩ := waits
        rw [decide_eq_true_eq]
        intro same
        have equal := queued.eq_of_ticket_eq waitingMember member same
        exact other (slot ▸ equal ▸ rfl)
  case dialing =>
    intro other otherMember dialing
    obtain ⟨before, different⟩ := departs.mem_flights_iff.mp otherMember
    have owns := queued.dialing other before dialing
    rw [departs.lock, departs.connection?]
    split
    · next same =>
        refine ⟨Lock.owner?_leave_of_ne owns.1 different, ?_⟩
        rw [Option.eq_none_iff_forall_ne_some]
        intro connection left
        rcases kept connection left with before | ⟨-, owned⟩
        · rw [← same, owns.2] at before
          cases before
        · rw [← same, owns.1, Option.some.injEq] at owned
          exact different owned
    · exact owns

/-- A slot is emptied. -/
theorem fill_none
    (queued : Queued state started)
    (number : Ticket) :
    Queued (state.fill number none) started := by
  constructor
  case distinct => exact queued.distinct
  case flights_started => exact queued.flights_started
  case places_started => exact queued.places_started
  case slots_started =>
    intro other connection held
    have before := (connection?_fill_none.mp held).2
    exact queued.slots_started other connection before
  case connections_over =>
    intro other connection held
    have before := (connection?_fill_none.mp held).2
    exact queued.connections_over other connection before
  case regular =>
    intro other
    rw [lock_fill]
    exact queued.regular other
  case queue =>
    intro other
    rw [lock_fill]
    exact queued.queue other
  case dialing =>
    intro flight member dialing
    have owns := queued.dialing flight member dialing
    rw [lock_fill]
    refine ⟨owns.1, ?_⟩
    rw [Option.eq_none_iff_forall_ne_some]
    intro connection held
    have before := (connection?_fill_none.mp held).2
    rw [owns.2] at before
    cases before

/-- The owner of an empty slot begins to dial. -/
theorem markDialing
    (queued : Queued state started)
    {flight : Flight}
    (member : flight ∈ state.flights)
    (owns : (state.slotAt flight.slot).lock.owner? = some flight.ticket)
    (empty : (state.slotAt flight.slot).connection? = none)
    (config : DialConfig) :
    Queued (state.markDialing flight config) started := by
  constructor
  case distinct =>
    rw [inFlight_markDialing]
    exact queued.distinct
  case flights_started =>
    intro other otherMember
    rw [flights_markDialing, List.mem_map] at otherMember
    obtain ⟨before, beforeMember, rfl⟩ := otherMember
    rw [Flight.ticket_whenDialing, Flight.slot_whenDialing]
    exact queued.flights_started before beforeMember
  case places_started => exact queued.places_started
  case slots_started => exact queued.slots_started
  case connections_over =>
    intro number connection held
    rw [inFlight_markDialing]
    exact queued.connections_over number connection held
  case regular => exact queued.regular
  case queue =>
    intro number
    rw [queueOf_markDialing]
    exact queued.queue number
  case dialing =>
    intro other otherMember dialing
    rw [flights_markDialing, List.mem_map] at otherMember
    obtain ⟨before, beforeMember, rfl⟩ := otherMember
    rw [Flight.ticket_whenDialing, Flight.slot_whenDialing]
    by_cases same : before.ticket = flight.ticket
    · have equal := queued.eq_of_ticket_eq beforeMember member same
      subst equal
      exact ⟨owns, empty⟩
    · rw [Flight.whenDialing_of_ne same] at dialing
      exact queued.dialing before beforeMember dialing

/-- The places are given up. -/
theorem clear (queued : Queued state started) : Queued state.clear started where
  distinct := queued.distinct
  flights_started := queued.flights_started
  places_started := by
    intro endpoint number placed
    exact absurd placed nofun
  slots_started := queued.slots_started
  connections_over := queued.connections_over
  regular := queued.regular
  queue := queued.queue
  dialing := queued.dialing

end Queued
end CacheState
end Switchboard
