import Switchboard.Proofs.Cache.Places
import Switchboard.Proofs.Cache.Trace

/-!
# How connections are kept

A connection that has been handed out and has not been closed is in a slot of its span.
The connection in a slot, or on its way to one, was dialed after all others that the span
has handed out had been closed.
-/

namespace Switchboard
namespace CacheState

open Trace

/-- What the trace tells of the connections. -/
structure Keeping
    (state : CacheState)
    (span : Ticket → Option LookupSpan)
    (effects : List Effect) : Prop where
  /-- The connection in a slot has been handed out to the lookup that dialed it. -/
  held : ∀ number connection, (state.slotAt number).connection? = some connection →
    .returned connection (.ok connection) ∈ effects
  /-- A connection that has been handed out is in a slot of the span or has been
  closed. -/
  kept : ∀ ticket connection, .returned ticket (.ok connection) ∈ effects →
    WasClosed effects connection ∨
      ∃ number, (state.slotAt number).connection? = some connection ∧
        span number = span ticket
  /-- A connection that is being dialed succeeds all others of its span. -/
  dialing_succeeds : ∀ flight ∈ state.flights, flight.isDialing = true →
    Succeeds span effects (span flight.slot) flight.ticket
  /-- A connection in a slot succeeds all others of its span. -/
  held_succeeds : ∀ number connection,
    (state.slotAt number).connection? = some connection →
      Succeeds span effects (span number) connection

theorem keeping_empty (span : Ticket → Option LookupSpan) : empty.Keeping span [] where
  held := by
    intro number connection held
    exact absurd held nofun
  kept := by
    intro ticket connection member
    exact absurd member List.not_mem_nil
  dialing_succeeds := by
    intro flight member
    exact absurd member List.not_mem_nil
  held_succeeds := by
    intro number connection held
    exact absurd held nofun

namespace Keeping

variable {span : Ticket → Option LookupSpan} {now : Nat} {started : List Ticket}
  {state : CacheState} {effects more : List Effect}

/-- Quiet effects tell nothing new. -/
theorem quiet
    (keeping : state.Keeping span effects)
    (quiet : IsQuiet more) :
    state.Keeping span (effects ++ more) := by
  have succeeds : ∀ {home connection}, Succeeds span effects home connection →
      Succeeds span (effects ++ more) home connection := by
    intro home connection succeeds
    apply succeeds.append
    rintro other ⟨ticket, -, member⟩
    exact absurd member (quiet.not_returned ticket other)
  constructor
  case held =>
    intro number connection held
    exact List.mem_append_left _ (keeping.held number connection held)
  case kept =>
    intro ticket connection member
    rw [List.mem_append, or_iff_left (quiet.not_returned ticket connection)] at member
    exact (keeping.kept ticket connection member).imp_left (wasClosed_append.mpr <| Or.inl ·)
  case dialing_succeeds =>
    intro flight member dialing
    exact succeeds (keeping.dialing_succeeds flight member dialing)
  case held_succeeds =>
    intro number connection held
    exact succeeds (keeping.held_succeeds number connection held)

/-- The places are given up. -/
theorem clear (keeping : state.Keeping span effects) : state.clear.Keeping span effects :=
  ⟨keeping.held, keeping.kept, keeping.dialing_succeeds, keeping.held_succeeds⟩

/-- A lookup with a new number boards. -/
theorem board
    (keeping : state.Keeping span effects)
    (queued : state.Queued started)
    {lookup : Lookup}
    (new : lookup.ticket ∉ started)
    (endpoint : String) :
    (state.board lookup endpoint).1.Keeping span effects := by
  have vacant := queued.slotAt_eq_vacant new
  constructor
  case held =>
    intro number connection held
    rw [connection?_board vacant] at held
    exact keeping.held number connection held
  case kept =>
    intro ticket connection member
    simp only [connection?_board vacant]
    exact keeping.kept ticket connection member
  case dialing_succeeds =>
    intro flight member dialing
    rw [flights_board, board_snd, List.mem_append, List.mem_singleton] at member
    rcases member with old | rfl
    · exact keeping.dialing_succeeds flight old dialing
    · exact absurd dialing Bool.false_ne_true
  case held_succeeds =>
    intro number connection held
    rw [connection?_board vacant] at held
    exact keeping.held_succeeds number connection held

/-- A lookup leaves, and its slot keeps what it has. -/
theorem leave
    (keeping : state.Keeping span effects)
    (flight : Flight) :
    (state.leave flight).Keeping span effects := by
  have departs := state.departs_leave flight
  have connection?_leave : ∀ number, ((state.leave flight).slotAt number).connection? =
      (state.slotAt number).connection? := by
    intro number
    rw [departs.connection?]
    split
    · next same => rw [same]
    · rfl
  constructor
  case held =>
    intro number connection held
    rw [connection?_leave] at held
    exact keeping.held number connection held
  case kept =>
    intro ticket connection member
    simp only [connection?_leave]
    exact keeping.kept ticket connection member
  case dialing_succeeds =>
    intro other member dialing
    exact keeping.dialing_succeeds other (departs.mem_flights_iff.mp member).1 dialing
  case held_succeeds =>
    intro number connection held
    rw [connection?_leave] at held
    exact keeping.held_succeeds number connection held

/-- A connection is handed out that is in a slot of the lookup's span. -/
theorem handOut
    (keeping : state.Keeping span effects)
    (queued : state.Queued started)
    (charted : state.Charted span now)
    {number ticket connection : Ticket}
    (held : (state.slotAt number).connection? = some connection)
    (home : span number = span ticket) :
    state.Keeping span (effects ++ [.returned ticket (.ok connection)]) := by
  have used : state.IsUsed number := Or.inl ⟨connection, held⟩
  -- Whoever sees the connection handed out in the span of a used slot has this slot.
  have sees : ∀ other handed, state.IsUsed other →
      HandsOut span [.returned ticket (.ok connection)] (span other) handed →
        other = number ∧ handed = connection := by
    rintro other handed otherUsed ⟨receiver, belongs, member⟩
    rw [List.mem_singleton, Effect.returned.injEq, Except.ok.injEq] at member
    obtain ⟨rfl, rfl⟩ := member
    exact ⟨charted.unique other number otherUsed used (belongs.symm.trans home.symm), rfl⟩
  constructor
  case held =>
    intro other kept otherHeld
    exact List.mem_append_left _ (keeping.held other kept otherHeld)
  case kept =>
    intro receiver handed member
    rw [List.mem_append, List.mem_singleton] at member
    rcases member with earlier | same
    · exact (keeping.kept receiver handed earlier).imp_left
        (wasClosed_append.mpr <| Or.inl ·)
    · rw [Effect.returned.injEq, Except.ok.injEq] at same
      obtain ⟨rfl, rfl⟩ := same
      exact Or.inr ⟨number, held, home⟩
  case dialing_succeeds =>
    intro flight member dialing
    apply (keeping.dialing_succeeds flight member dialing).append
    intro handed handedOut
    have same := (sees _ _ (isUsed_of_mem member) handedOut).1
    have empty := (queued.dialing flight member dialing).2
    rw [same, held] at empty
    cases empty
  case held_succeeds =>
    intro other kept otherHeld
    apply (keeping.held_succeeds other kept otherHeld).append
    intro handed handedOut
    obtain ⟨rfl, rfl⟩ := sees _ _ (Or.inl ⟨kept, otherHeld⟩) handedOut
    rw [held, Option.some.injEq] at otherHeld
    exact otherHeld

/-- The connection in a slot is closed. -/
theorem evict
    (keeping : state.Keeping span effects)
    {number connection : Ticket}
    (held : (state.slotAt number).connection? = some connection)
    (closer : Ticket)
    (endpoint : String)
    (reported : Connectivity) :
    (state.fill number none).Keeping span
      (effects ++ [.closed closer connection endpoint reported]) := by
  have succeeds : ∀ {home other}, Succeeds span effects home other →
      Succeeds span
        (effects ++ [.closed closer connection endpoint reported]) home other := by
    intro home other succeeds
    apply succeeds.append
    rintro handed ⟨ticket, -, new⟩
    simp at new
  constructor
  case held =>
    intro other kept still
    have was := (connection?_fill_none.mp still).2
    exact List.mem_append_left _ (keeping.held other kept was)
  case kept =>
    intro ticket handed returned
    have earlier : .returned ticket (.ok handed) ∈ effects := by simpa using returned
    rw [wasClosed_append]
    rcases keeping.kept ticket handed earlier with closed | ⟨other, kept, home⟩
    · exact Or.inl (Or.inl closed)
    · by_cases same : other = number
      · rw [same, held, Option.some.injEq] at kept
        subst kept
        exact Or.inl (Or.inr ⟨closer, endpoint, reported, List.mem_singleton_self _⟩)
      · exact Or.inr ⟨other, connection?_fill_none.mpr ⟨same, kept⟩, home⟩
  case dialing_succeeds =>
    intro flight member dialing
    exact succeeds (keeping.dialing_succeeds flight member dialing)
  case held_succeeds =>
    intro other kept still
    exact succeeds (keeping.held_succeeds other kept (connection?_fill_none.mp still).2)

/-- All that the span of an empty slot has handed out has been closed, so that whatever is
dialed for the slot now succeeds it. -/
theorem succeeds_of_empty
    (keeping : state.Keeping span effects)
    (charted : state.Charted span now)
    {number : Ticket}
    (used : state.IsUsed number)
    (empty : (state.slotAt number).connection? = none)
    (ticket : Ticket)
    (endpoint : String)
    (config : DialConfig) :
    Succeeds span (effects ++ [.dialed ticket endpoint config]) (span number) ticket := by
  refine ⟨effects, endpoint, config, [], rfl, ?_⟩
  rintro handed - ⟨receiver, belongs, returned⟩
  have earlier : .returned receiver (.ok handed) ∈ effects := by simpa using returned
  rcases keeping.kept receiver handed earlier with closed | ⟨other, held, home⟩
  · exact closed
  · have here := charted.unique other number (Or.inl ⟨handed, held⟩) used
      (home.trans belongs)
    rw [here, empty] at held
    cases held

/-- A lookup begins to dial for its empty slot. -/
theorem markDialing
    (keeping : state.Keeping span effects)
    (queued : state.Queued started)
    (charted : state.Charted span now)
    {flight : Flight}
    (member : flight ∈ state.flights)
    (empty : (state.slotAt flight.slot).connection? = none)
    (endpoint : String)
    (config : DialConfig) :
    (state.markDialing flight config).Keeping span
      (effects ++ [.dialed flight.ticket endpoint config]) := by
  have succeeds : ∀ {home other}, Succeeds span effects home other →
      Succeeds span (effects ++ [.dialed flight.ticket endpoint config]) home other := by
    intro home other succeeds
    apply succeeds.append
    rintro handed ⟨ticket, -, new⟩
    simp at new
  constructor
  case held =>
    intro number connection held
    exact List.mem_append_left _ (keeping.held number connection held)
  case kept =>
    intro ticket connection returned
    have earlier : .returned ticket (.ok connection) ∈ effects := by simpa using returned
    exact (keeping.kept ticket connection earlier).imp_left
      (wasClosed_append.mpr <| Or.inl ·)
  case dialing_succeeds =>
    intro other otherMember dialing
    rw [flights_markDialing, List.mem_map] at otherMember
    obtain ⟨before, beforeMember, rfl⟩ := otherMember
    rw [Flight.slot_whenDialing, Flight.ticket_whenDialing]
    by_cases same : before.ticket = flight.ticket
    · have equal := queued.eq_of_ticket_eq beforeMember member same
      subst equal
      exact keeping.succeeds_of_empty charted (isUsed_of_mem member) empty _ _ _
    · rw [Flight.whenDialing_of_ne same] at dialing
      exact succeeds (keeping.dialing_succeeds before beforeMember dialing)
  case held_succeeds =>
    intro number connection held
    exact succeeds (keeping.held_succeeds number connection held)

/-- A lookup whose dial has succeeded leaves its connection in its slot, and it is handed
out. -/
theorem establish
    (keeping : state.Keeping span effects)
    (queued : state.Queued started)
    (charted : state.Charted span now)
    {flight : Flight}
    (member : flight ∈ state.flights)
    (dialing : flight.isDialing = true) :
    ((state.fill flight.slot (some flight.ticket)).leave flight).Keeping span
      (effects ++ [.returned flight.ticket (.ok flight.ticket)]) := by
  have departs := state.departs_fill_leave flight (some flight.ticket)
  have empty := (queued.dialing flight member dialing).2
  have home := charted.span_slot member
  have flying := isUsed_of_mem member
  have handsOut : ∀ {other handed},
      HandsOut span [.returned flight.ticket (.ok flight.ticket)] other handed →
        handed = flight.ticket ∧ other = span flight.slot := by
    rintro other handed ⟨ticket, belongs, returned⟩
    rw [List.mem_singleton, Effect.returned.injEq, Except.ok.injEq] at returned
    obtain ⟨rfl, rfl⟩ := returned
    exact ⟨rfl, belongs.symm.trans home.symm⟩
  constructor
  case held =>
    intro number connection held
    rw [departs.connection?] at held
    split at held
    · rw [Option.some.injEq] at held
      subst held
      exact List.mem_append_right _ (List.mem_singleton_self _)
    · exact List.mem_append_left _ (keeping.held number connection held)
  case kept =>
    intro ticket connection returned
    rw [List.mem_append, List.mem_singleton] at returned
    rcases returned with earlier | same
    · rcases keeping.kept ticket connection earlier with closed | ⟨number, held, belongs⟩
      · exact Or.inl (wasClosed_append.mpr (Or.inl closed))
      · have elsewhere : number ≠ flight.slot := by
          intro here
          rw [here, empty] at held
          cases held
        refine Or.inr ⟨number, ?_, belongs⟩
        rw [departs.connection?, if_neg elsewhere]
        exact held
    · rw [Effect.returned.injEq, Except.ok.injEq] at same
      obtain ⟨rfl, rfl⟩ := same
      refine Or.inr ⟨flight.slot, ?_, home⟩
      rw [departs.connection?, if_pos rfl]
  case dialing_succeeds =>
    intro other otherMember otherDialing
    obtain ⟨was, different⟩ := departs.mem_flights_iff.mp otherMember
    apply (keeping.dialing_succeeds other was otherDialing).append
    intro handed handedOut
    have here := charted.unique _ _ (isUsed_of_mem was) flying (handsOut handedOut).2
    have equal := queued.eq_of_dialing was member otherDialing dialing here
    exact absurd (congrArg Flight.ticket equal) different
  case held_succeeds =>
    intro number connection held
    rw [departs.connection?] at held
    split at held
    · next here =>
        rw [Option.some.injEq] at held
        subst here held
        apply (keeping.dialing_succeeds flight member dialing).append
        intro handed handedOut
        exact (handsOut handedOut).1
    · next elsewhere =>
        apply (keeping.held_succeeds number connection held).append
        intro handed handedOut
        exact absurd
          (charted.unique _ _ (Or.inl ⟨connection, held⟩) flying (handsOut handedOut).2)
          elsewhere

end Keeping
end CacheState
end Switchboard
