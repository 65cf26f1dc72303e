import Switchboard.Proofs.Cache.History
import Switchboard.Proofs.Cache.Queueing

/-!
# Where slots are found

A slot is used while it has a connection or a lookup under way.  A used slot belongs to
the span of the lookup that made it, and no other used slot belongs to that span.  The
places of the endpoints are exactly the used slots of the present epoch: none is lost
and none is left behind.
-/

namespace Switchboard
namespace CacheState

/-- A slot is used: it has a connection, or a lookup under way has it. -/
def IsUsed
    (state : CacheState)
    (number : Ticket) : Prop :=
  (∃ connection, (state.slotAt number).connection? = some connection) ∨
    ∃ flight ∈ state.flights, flight.slot = number

theorem isUsed_of_mem
    {state : CacheState}
    {flight : Flight}
    (member : flight ∈ state.flights) :
    state.IsUsed flight.slot :=
  Or.inr ⟨flight, member, rfl⟩

theorem not_isUsed_empty (number : Ticket) : ¬empty.IsUsed number := by
  rintro (⟨connection, held⟩ | ⟨flight, member, -⟩)
  · cases held
  · exact List.not_mem_nil member

/-- The slots belong to the spans of those who use them, and the used slots of the
present epoch have the places of their endpoints. -/
structure Charted
    (state : CacheState)
    (span : Ticket → Option LookupSpan)
    (now : Nat) : Prop where
  /-- A lookup under way has a slot of its own span. -/
  flights_span : ∀ flight ∈ state.flights, ∃ epoch,
    span flight.ticket = some ⟨flight.endpoint, epoch⟩ ∧
      span flight.slot = some ⟨flight.endpoint, epoch⟩
  /-- A connection is in a slot of its own span. -/
  connections_span : ∀ number connection,
    (state.slotAt number).connection? = some connection →
      ∃ home, span number = some home ∧ span connection = some home
  /-- No slot belongs to an epoch to come. -/
  past : ∀ number home, state.IsUsed number → span number = some home →
    home.epoch ≤ now
  /-- The slot at the place of an endpoint belongs to the endpoint and to the present
  epoch. -/
  places_span : ∀ endpoint number, state.places.find? endpoint = some number →
    span number = some ⟨endpoint, now⟩
  /-- A used slot of the present epoch is at the place of its endpoint. -/
  placed : ∀ endpoint number, state.IsUsed number →
    span number = some ⟨endpoint, now⟩ →
      state.places.find? endpoint = some number
  /-- The slot at the place of an endpoint is used. -/
  occupied : ∀ endpoint number, state.places.find? endpoint = some number →
    state.IsUsed number
  /-- One span has one used slot at most. -/
  unique : ∀ left right, state.IsUsed left → state.IsUsed right →
    span left = span right → left = right
  /-- No endpoint has two places. -/
  keys : state.places.HasDistinctKeys

theorem charted_empty (span : Ticket → Option LookupSpan) : Charted empty span 0 where
  flights_span := by
    intro flight member
    exact absurd member List.not_mem_nil
  connections_span := by
    intro number connection held
    exact absurd held nofun
  past := by
    intro number home used
    exact absurd used (not_isUsed_empty number)
  places_span := by
    intro endpoint number placed
    exact absurd placed nofun
  placed := by
    intro endpoint number used
    exact absurd used (not_isUsed_empty number)
  occupied := by
    intro endpoint number placed
    exact absurd placed nofun
  unique := by
    intro left right used
    exact absurd used (not_isUsed_empty left)
  keys := Table.hasDistinctKeys_empty

namespace Charted

variable {span : Ticket → Option LookupSpan} {now : Nat} {started : List Ticket}
  {state next : CacheState}

/-- A lookup under way belongs to the span of its slot. -/
theorem span_slot
    (charted : Charted state span now)
    {flight : Flight}
    (member : flight ∈ state.flights) :
    span flight.slot = span flight.ticket := by
  obtain ⟨epoch, own, slot⟩ := charted.flights_span flight member
  rw [own, slot]

/-- Lookups under way in one span have one slot. -/
theorem slot_eq_of_span_eq
    (charted : Charted state span now)
    {left right : Flight}
    (leftMember : left ∈ state.flights)
    (rightMember : right ∈ state.flights)
    (same : span left.ticket = span right.ticket) :
    left.slot = right.slot := by
  apply charted.unique _ _ (isUsed_of_mem leftMember) (isUsed_of_mem rightMember)
  rw [charted.span_slot leftMember, charted.span_slot rightMember, same]

/-- A connection is in one slot at most. -/
theorem slot_eq_of_connection_eq
    (charted : Charted state span now)
    {left right connection : Ticket}
    (leftHeld : (state.slotAt left).connection? = some connection)
    (rightHeld : (state.slotAt right).connection? = some connection) :
    left = right := by
  apply charted.unique _ _ (Or.inl ⟨_, leftHeld⟩) (Or.inl ⟨_, rightHeld⟩)
  obtain ⟨leftHome, leftBelongs, leftSame⟩ := charted.connections_span _ _ leftHeld
  obtain ⟨rightHome, rightBelongs, rightSame⟩ := charted.connections_span _ _ rightHeld
  rw [leftBelongs, rightBelongs, ← leftSame, rightSame]

/-- The slot that a lookup of the present epoch gets belongs to its span. -/
theorem span_berth
    (charted : Charted state span now)
    {endpoint : String}
    {ticket : Ticket}
    (belongs : span ticket = some ⟨endpoint, now⟩) :
    span (state.berth endpoint ticket) = some ⟨endpoint, now⟩ := by
  rw [berth]
  cases placed : state.places.find? endpoint with
  | none => exact belongs
  | some number => exact charted.places_span endpoint number placed

/-- A used slot of the span of a new lookup is the one that the lookup gets. -/
theorem eq_berth
    (charted : Charted state span now)
    {endpoint : String}
    {number : Ticket}
    (used : state.IsUsed number)
    (belongs : span number = some ⟨endpoint, now⟩)
    (ticket : Ticket) :
    number = state.berth endpoint ticket := by
  rw [berth, charted.placed endpoint number used belongs]
  rfl

/-- A lookup boards in its span. -/
theorem board
    (charted : Charted state span now)
    (queued : Queued state started)
    {lookup : Lookup}
    {endpoint : String}
    (new : lookup.ticket ∉ started)
    (belongs : span lookup.ticket = some ⟨endpoint, now⟩) :
    Charted (state.board lookup endpoint).1 span now := by
  have vacant := queued.slotAt_eq_vacant new
  have spanBerth := charted.span_berth belongs
  have used_iff : ∀ number, (state.board lookup endpoint).1.IsUsed number ↔
      state.IsUsed number ∨ number = state.berth endpoint lookup.ticket := by
    intro number
    rw [IsUsed, IsUsed, connection?_board vacant, flights_board, board_snd, or_assoc]
    simp [or_and_right, exists_or, eq_comm]
  constructor
  case flights_span =>
    intro flight member
    rw [flights_board, board_snd, List.mem_append, List.mem_singleton] at member
    rcases member with old | rfl
    · exact charted.flights_span flight old
    · exact ⟨now, belongs, spanBerth⟩
  case connections_span =>
    intro number connection held
    rw [connection?_board vacant] at held
    exact charted.connections_span number connection held
  case past =>
    intro number home used inHome
    rcases (used_iff number).mp used with old | rfl
    · exact charted.past number home old inHome
    · rw [spanBerth, Option.some.injEq] at inHome
      rw [← inHome]
  case places_span =>
    intro other number placed
    rw [find?_places_board] at placed
    split at placed
    · next same =>
        rw [Option.some.injEq] at placed
        rw [← placed, same]
        exact spanBerth
    · exact charted.places_span other number placed
  case placed =>
    intro other number used inHome
    rw [find?_places_board]
    rcases (used_iff number).mp used with old | rfl
    · split
      · next same => rw [← charted.eq_berth old (same ▸ inHome)]
      · exact charted.placed other number old inHome
    · rw [spanBerth, Option.some.injEq, LookupSpan.mk.injEq] at inHome
      rw [if_pos inHome.1.symm]
  case occupied =>
    intro other number placed
    rw [used_iff]
    rw [find?_places_board] at placed
    split at placed
    · rw [Option.some.injEq] at placed
      exact Or.inr placed.symm
    · exact Or.inl (charted.occupied other number placed)
  case unique =>
    intro left right leftUsed rightUsed same
    rcases (used_iff left).mp leftUsed with leftOld | rfl
    · rcases (used_iff right).mp rightUsed with rightOld | rfl
      · exact charted.unique left right leftOld rightOld same
      · exact charted.eq_berth leftOld (same.trans spanBerth) _
    · rcases (used_iff right).mp rightUsed with rightOld | rfl
      · exact (charted.eq_berth rightOld (same.symm.trans spanBerth) _).symm
      · rfl
  case keys => exact hasDistinctKeys_places_board charted.keys lookup endpoint

/-- A lookup departs.  What it leaves in its slot was there before, or is the connection
that it has dialed itself. -/
theorem departs
    (charted : Charted state span now)
    (queued : Queued state started)
    {flight : Flight}
    {kept? : Option Ticket}
    (member : flight ∈ state.flights)
    (departs : state.Departs flight kept? next)
    (nextQueued : Queued next started)
    (kept : ∀ connection, kept? = some connection →
      (state.slotAt flight.slot).connection? = some connection ∨
        connection = flight.ticket) :
    Charted next span now := by
  have used_before : ∀ number, next.IsUsed number → state.IsUsed number := by
    rintro number (⟨connection, held⟩ | ⟨other, otherMember, rfl⟩)
    · rw [departs.connection?] at held
      split at held
      · next same => exact same ▸ isUsed_of_mem member
      · exact Or.inl ⟨connection, held⟩
    · exact isUsed_of_mem (departs.mem_flights_iff.mp otherMember).1
  constructor
  case flights_span =>
    intro other otherMember
    exact charted.flights_span other (departs.mem_flights_iff.mp otherMember).1
  case connections_span =>
    intro number connection held
    rw [departs.connection?] at held
    split at held
    · next same =>
        rcases kept connection held with before | rfl
        · exact same ▸ charted.connections_span _ _ before
        · obtain ⟨epoch, own, slot⟩ := charted.flights_span flight member
          exact ⟨_, same ▸ slot, own⟩
    · exact charted.connections_span number connection held
  case past =>
    intro number home used inHome
    exact charted.past number home (used_before number used) inHome
  case places_span =>
    intro endpoint number placed
    rw [departs.places] at placed
    split at placed
    · cases placed
    · exact charted.places_span endpoint number placed
  case placed =>
    intro endpoint number used inHome
    have placed := charted.placed endpoint number (used_before number used) inHome
    rw [departs.places]
    split
    · next gone =>
        -- The place is gone only if its slot is not used any more.
        obtain ⟨-, here, unoccupied, unused⟩ := gone
        rw [here, Option.some.injEq] at placed
        subst placed
        rcases used with ⟨connection, held⟩ | ⟨other, otherMember, same⟩
        · rw [Slot.isOccupied, held] at unoccupied
          exact absurd unoccupied (by simp)
        · exact absurd same (unused other otherMember)
    · exact placed
  case occupied =>
    intro endpoint number placed
    rw [departs.places] at placed
    split at placed
    · cases placed
    · next stays =>
        by_cases same : number = flight.slot
        · subst same
          obtain ⟨epoch, -, slot⟩ := charted.flights_span flight member
          have here := charted.places_span endpoint flight.slot placed
          rw [slot, Option.some.injEq, LookupSpan.mk.injEq] at here
          by_contra unused
          rw [IsUsed, not_or, not_exists, not_exists] at unused
          have noFlights : ∀ other ∈ next.flights, other.slot ≠ flight.slot := by
            intro other otherMember otherSame
            exact unused.2 other ⟨otherMember, otherSame⟩
          have empty : (next.slotAt flight.slot).connection? = none :=
            Option.eq_none_iff_forall_ne_some.mpr unused.1
          have free := (nextQueued.isTaken_eq_false_iff flight.slot).mpr noFlights
          refine stays ⟨here.1.symm, placed, ?_, noFlights⟩
          rw [Slot.isOccupied, empty, free]
          rfl
        · rcases charted.occupied endpoint number placed with
            ⟨connection, held⟩ | ⟨other, otherMember, slot⟩
          · refine Or.inl ⟨connection, ?_⟩
            rw [departs.connection?, if_neg same]
            exact held
          · refine Or.inr ⟨other, departs.mem_flights_iff.mpr ⟨otherMember, ?_⟩, slot⟩
            intro sameTicket
            have equal := queued.eq_of_ticket_eq otherMember member sameTicket
            exact same (slot ▸ equal ▸ rfl)
  case unique =>
    intro left right leftUsed rightUsed same
    exact charted.unique left right (used_before left leftUsed)
      (used_before right rightUsed) same
  case keys => exact departs.distinct charted.keys

/-- The places stay, and so do the slots that are used. -/
theorem of_isUsed_iff
    (charted : Charted state span now)
    (places : next.places = state.places)
    (used_iff : ∀ number, next.IsUsed number ↔ state.IsUsed number)
    (flights_span : ∀ flight ∈ next.flights, ∃ epoch,
      span flight.ticket = some ⟨flight.endpoint, epoch⟩ ∧
        span flight.slot = some ⟨flight.endpoint, epoch⟩)
    (connections_span : ∀ number connection,
      (next.slotAt number).connection? = some connection →
        ∃ home, span number = some home ∧ span connection = some home) :
    Charted next span now := by
  constructor
  case flights_span => exact flights_span
  case connections_span => exact connections_span
  case past =>
    intro number home used inHome
    exact charted.past number home ((used_iff number).mp used) inHome
  case places_span =>
    rw [places]
    exact charted.places_span
  case placed =>
    intro endpoint number used inHome
    rw [places]
    exact charted.placed endpoint number ((used_iff number).mp used) inHome
  case occupied =>
    intro endpoint number placed
    rw [places] at placed
    exact (used_iff number).mpr (charted.occupied endpoint number placed)
  case unique =>
    intro left right leftUsed rightUsed same
    exact charted.unique left right ((used_iff left).mp leftUsed)
      ((used_iff right).mp rightUsed) same
  case keys =>
    rw [places]
    exact charted.keys

/-- The slot of a lookup under way is emptied. -/
theorem fill_none
    (charted : Charted state span now)
    {flight : Flight}
    (member : flight ∈ state.flights) :
    Charted (state.fill flight.slot none) span now := by
  apply charted.of_isUsed_iff (state.places_fill flight.slot none)
  · intro number
    rw [IsUsed, IsUsed, flights_fill]
    constructor
    · rintro (⟨connection, held⟩ | flying)
      · exact Or.inl ⟨connection, (connection?_fill_none.mp held).2⟩
      · exact Or.inr flying
    · rintro (⟨connection, held⟩ | flying)
      · by_cases same : number = flight.slot
        · exact Or.inr ⟨flight, member, same.symm⟩
        · exact Or.inl ⟨connection, connection?_fill_none.mpr ⟨same, held⟩⟩
      · exact Or.inr flying
  · exact charted.flights_span
  · intro number connection held
    exact charted.connections_span number connection (connection?_fill_none.mp held).2

/-- A lookup begins to dial. -/
theorem markDialing
    (charted : Charted state span now)
    (flight : Flight)
    (config : DialConfig) :
    Charted (state.markDialing flight config) span now := by
  apply charted.of_isUsed_iff (state.places_markDialing flight config)
  · intro number
    rw [IsUsed, IsUsed, slotAt_markDialing, flights_markDialing]
    simp
  · intro other member
    rw [flights_markDialing, List.mem_map] at member
    obtain ⟨before, beforeMember, rfl⟩ := member
    rw [Flight.ticket_whenDialing, Flight.slot_whenDialing, Flight.endpoint_whenDialing]
    exact charted.flights_span before beforeMember
  · exact charted.connections_span

/-- The places are given up, and another epoch begins. -/
theorem clear (charted : Charted state span now) :
    Charted state.clear span (now + 1) where
  flights_span := charted.flights_span
  connections_span := charted.connections_span
  past := by
    intro number home used inHome
    exact (charted.past number home used inHome).trans (Nat.le_succ now)
  places_span := by
    intro endpoint number placed
    exact absurd placed nofun
  placed := by
    intro endpoint number used inHome
    have early := charted.past number _ used inHome
    exact absurd early (Nat.not_succ_le_self now)
  occupied := by
    intro endpoint number placed
    exact absurd placed nofun
  unique := charted.unique
  keys := Table.hasDistinctKeys_empty

end Charted
end CacheState
end Switchboard
