import Switchboard.Proofs.Cache.Places
import Switchboard.Proofs.Cache.Trace

/-!
# What lookups have done

A lookup that has dialed and is still under way is dialing, and one that has closed a
connection still has the lock of its emptied slot.  A connection that has been closed is
in no slot, and never comes back to one.
-/

namespace Switchboard
namespace CacheState

open Trace

/-- What the trace tells of those who have dialed or closed something. -/
structure Deeds
    (state : CacheState)
    (started : List Ticket)
    (effects : List Effect) : Prop where
  /-- Who has dialed has been started, and dials as long as it is under way. -/
  dialed : ∀ ticket, HasDialed effects ticket → ticket ∈ started ∧
    ∀ flight ∈ state.flights, flight.ticket = ticket → flight.isDialing = true
  /-- Who has closed a connection has been started, and has the lock of its emptied slot
  as long as it is under way. -/
  closer : ∀ ticket, HasClosed effects ticket → ticket ∈ started ∧
    ∀ flight ∈ state.flights, flight.ticket = ticket →
      (state.slotAt flight.slot).lock.owner? = some ticket ∧
        (state.slotAt flight.slot).connection? = none
  /-- A connection that has been closed is in no slot, and who dialed it has ended. -/
  closed : ∀ connection, WasClosed effects connection →
    connection ∈ started ∧ connection ∉ state.inFlight ∧
      ∀ number, (state.slotAt number).connection? ≠ some connection

theorem deeds_empty (started : List Ticket) : empty.Deeds started [] where
  dialed := by
    rintro ticket ⟨endpoint, config, member⟩
    exact absurd member List.not_mem_nil
  closer := by
    rintro ticket ⟨connection, endpoint, state, member⟩
    exact absurd member List.not_mem_nil
  closed := by
    rintro connection ⟨closer, endpoint, state, member⟩
    exact absurd member List.not_mem_nil

namespace Deeds

variable {started : List Ticket} {state next : CacheState} {effects more : List Effect}

theorem mono
    (deeds : state.Deeds started effects)
    {larger : List Ticket}
    (grown : started ⊆ larger) :
    state.Deeds larger effects where
  dialed := fun ticket dialed => (deeds.dialed ticket dialed).imp_left (grown ·)
  closer := fun ticket closed => (deeds.closer ticket closed).imp_left (grown ·)
  closed := fun connection closed => (deeds.closed connection closed).imp_left (grown ·)

/-- Idle effects are no deeds. -/
theorem idle
    (deeds : state.Deeds started effects)
    (idle : IsIdle more) :
    state.Deeds started (effects ++ more) where
  dialed := by
    intro ticket dialed
    exact deeds.dialed ticket ((idle.hasDialed_append_iff ticket).mp dialed)
  closer := by
    intro ticket closed
    exact deeds.closer ticket ((idle.hasClosed_append_iff ticket).mp closed)
  closed := by
    intro connection closed
    exact deeds.closed connection ((idle.wasClosed_append_iff connection).mp closed)

/-- The places are given up. -/
theorem clear (deeds : state.Deeds started effects) : state.clear.Deeds started effects :=
  ⟨deeds.dialed, deeds.closer, deeds.closed⟩

/-- A lookup with a new number boards. -/
theorem board
    (deeds : state.Deeds started effects)
    (queued : state.Queued started)
    {lookup : Lookup}
    (new : lookup.ticket ∉ started)
    (endpoint : String) :
    (state.board lookup endpoint).1.Deeds (started ++ [lookup.ticket]) effects := by
  have vacant := queued.slotAt_eq_vacant new
  have boarded : ∀ ticket ∈ started, ∀ flight ∈ (state.board lookup endpoint).1.flights,
      flight.ticket = ticket → flight ∈ state.flights := by
    rintro ticket known flight member rfl
    rw [flights_board, board_snd, List.mem_append, List.mem_singleton] at member
    rcases member with old | rfl
    · exact old
    · exact absurd known new
  refine ⟨?_, ?_, ?_⟩
  · intro ticket dialed
    obtain ⟨known, dials⟩ := deeds.dialed ticket dialed
    refine ⟨List.mem_append_left _ known, ?_⟩
    intro flight member same
    exact dials flight (boarded ticket known flight member same) same
  · intro ticket closed
    obtain ⟨known, owns⟩ := deeds.closer ticket closed
    refine ⟨List.mem_append_left _ known, ?_⟩
    intro flight member same
    obtain ⟨owner, empty⟩ := owns flight (boarded ticket known flight member same) same
    refine ⟨?_, (connection?_board vacant _ _).trans empty⟩
    rw [slotAt_board vacant]
    split
    · exact Lock.owner?_request_of_eq_some owner _
    · exact owner
  · intro connection closed
    obtain ⟨known, ended, nowhere⟩ := deeds.closed connection closed
    refine ⟨List.mem_append_left _ known, ?_, ?_⟩
    · rw [inFlight_board, List.mem_append, List.mem_singleton]
      rintro (member | rfl)
      · exact ended member
      · exact new known
    · intro number
      rw [connection?_board vacant]
      exact nowhere number

/-- A lookup departs.  What it leaves in its slot was there before, or is the connection
that it has dialed itself as the owner of the slot. -/
theorem departs
    (deeds : state.Deeds started effects)
    {flight : Flight}
    {kept? : Option Ticket}
    (member : flight ∈ state.flights)
    (departs : state.Departs flight kept? next)
    (kept : ∀ connection, kept? = some connection →
      (state.slotAt flight.slot).connection? = some connection ∨
        connection = flight.ticket ∧
          (state.slotAt flight.slot).lock.owner? = some flight.ticket) :
    next.Deeds started effects := by
  refine ⟨?_, ?_, ?_⟩
  · intro ticket dialed
    obtain ⟨known, dials⟩ := deeds.dialed ticket dialed
    refine ⟨known, ?_⟩
    intro other otherMember
    exact dials other (departs.mem_flights_iff.mp otherMember).1
  · intro ticket closed
    obtain ⟨known, owns⟩ := deeds.closer ticket closed
    refine ⟨known, ?_⟩
    rintro other otherMember rfl
    obtain ⟨before, different⟩ := departs.mem_flights_iff.mp otherMember
    obtain ⟨owner, empty⟩ := owns other before rfl
    rw [departs.lock, departs.connection?]
    split
    · next same =>
        refine ⟨Lock.owner?_leave_of_ne owner different, ?_⟩
        rw [Option.eq_none_iff_forall_ne_some]
        intro connection left
        rcases kept connection left with held | ⟨-, owned⟩
        · rw [← same, empty] at held
          cases held
        · rw [← same, owner, Option.some.injEq] at owned
          exact different owned
    · exact ⟨owner, empty⟩
  · intro connection closed
    obtain ⟨known, ended, nowhere⟩ := deeds.closed connection closed
    refine ⟨known, ?_, ?_⟩
    · rw [departs.inFlight]
      exact fun flies => ended (List.mem_of_mem_filter flies)
    · intro number
      rw [departs.connection?]
      split
      · intro left
        rcases kept connection left with held | ⟨rfl, -⟩
        · exact nowhere flight.slot held
        · exact ended (List.mem_map.mpr ⟨flight, member, rfl⟩)
      · exact nowhere number

/-- The owner of a slot closes the connection there. -/
theorem evict
    (deeds : state.Deeds started effects)
    (queued : state.Queued started)
    {span : Ticket → Option LookupSpan}
    {now : Nat}
    (charted : state.Charted span now)
    {flight : Flight}
    {connection : Ticket}
    (member : flight ∈ state.flights)
    (owns : (state.slotAt flight.slot).lock.owner? = some flight.ticket)
    (held : (state.slotAt flight.slot).connection? = some connection)
    (endpoint : String)
    (reported : Connectivity) :
    (state.fill flight.slot none).Deeds started
      (effects ++ [.closed flight.ticket connection endpoint reported]) := by
  refine ⟨?_, ?_, ?_⟩
  · intro ticket dialed
    apply deeds.dialed ticket
    simpa [HasDialed] using dialed
  · intro ticket closed
    rw [hasClosed_append] at closed
    rcases closed with earlier | ⟨other, _, _, new⟩
    · obtain ⟨known, before⟩ := deeds.closer ticket earlier
      refine ⟨known, ?_⟩
      intro other otherMember same
      obtain ⟨owner, empty⟩ := before other otherMember same
      rw [lock_fill, Option.eq_none_iff_forall_ne_some]
      refine ⟨owner, ?_⟩
      intro kept still
      have was := (connection?_fill_none.mp still).2
      rw [empty] at was
      cases was
    · rw [List.mem_singleton, Effect.closed.injEq] at new
      obtain ⟨rfl, -⟩ := new
      refine ⟨(queued.flights_started flight member).1, ?_⟩
      intro other otherMember same
      have equal := queued.eq_of_ticket_eq otherMember member same
      subst equal
      rw [lock_fill, slotAt_fill, if_pos rfl]
      exact ⟨owns, rfl⟩
  · intro other closed
    rw [wasClosed_append] at closed
    rcases closed with earlier | ⟨_, _, _, new⟩
    · obtain ⟨known, ended, nowhere⟩ := deeds.closed other earlier
      refine ⟨known, ended, ?_⟩
      intro number still
      exact nowhere number (connection?_fill_none.mp still).2
    · rw [List.mem_singleton, Effect.closed.injEq] at new
      obtain ⟨-, rfl, -⟩ := new
      obtain ⟨known, ended⟩ := queued.connections_over _ _ held
      refine ⟨known, ended, ?_⟩
      intro number still
      obtain ⟨different, was⟩ := connection?_fill_none.mp still
      exact different (charted.slot_eq_of_connection_eq was held)

/-- A lookup begins to dial. -/
theorem markDialing
    (deeds : state.Deeds started effects)
    (queued : state.Queued started)
    {flight : Flight}
    (member : flight ∈ state.flights)
    (endpoint : String)
    (config : DialConfig) :
    (state.markDialing flight config).Deeds started
      (effects ++ [.dialed flight.ticket endpoint config]) := by
  have marked : ∀ other ∈ (state.markDialing flight config).flights,
      ∃ before ∈ state.flights, before.whenDialing flight config = other :=
    fun other otherMember => List.mem_map.mp otherMember
  refine ⟨?_, ?_, ?_⟩
  · intro ticket dialed
    rw [hasDialed_append] at dialed
    rcases dialed with earlier | ⟨_, _, new⟩
    · obtain ⟨known, dials⟩ := deeds.dialed ticket earlier
      refine ⟨known, ?_⟩
      intro other otherMember same
      obtain ⟨before, beforeMember, rfl⟩ := marked other otherMember
      rw [Flight.ticket_whenDialing] at same
      rw [Flight.isDialing_whenDialing, dials before beforeMember same, Bool.or_true]
    · rw [List.mem_singleton, Effect.dialed.injEq] at new
      obtain ⟨rfl, -⟩ := new
      refine ⟨(queued.flights_started flight member).1, ?_⟩
      intro other otherMember same
      obtain ⟨before, -, rfl⟩ := marked other otherMember
      rw [Flight.ticket_whenDialing] at same
      rw [Flight.isDialing_whenDialing, same, decide_eq_true rfl, Bool.true_or]
  · intro ticket closed
    have earlier : HasClosed effects ticket := by simpa [HasClosed] using closed
    obtain ⟨known, owns⟩ := deeds.closer ticket earlier
    refine ⟨known, ?_⟩
    intro other otherMember same
    obtain ⟨before, beforeMember, rfl⟩ := marked other otherMember
    rw [Flight.ticket_whenDialing] at same
    rw [Flight.slot_whenDialing]
    exact owns before beforeMember same
  · intro connection closed
    have earlier : WasClosed effects connection := by simpa [WasClosed] using closed
    rw [inFlight_markDialing]
    exact deeds.closed connection earlier

end Deeds
end CacheState
end Switchboard
