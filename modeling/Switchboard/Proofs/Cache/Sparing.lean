import Switchboard.Proofs.Cache.Grounds

/-!
# Sparing connections

A connection in a slot stays there until a lookup that has its turn closes it, and nobody closes
one that may still be handed out.  Whatever becomes of the lookups, only a clear takes the slot's
places away.
-/

namespace Switchboard

theorem Surroundings.stateOf_report_of_ne
    (surroundings : Surroundings)
    {connection other : Ticket}
    (different : other ≠ connection)
    (state : Connectivity) :
    (surroundings.report connection state).stateOf other = surroundings.stateOf other := by
  rw [stateOf, report, Table.find?_set_of_ne _ _ different]
  rfl

/-! ## Connections in slots -/

/-- A slot keeps a connection: the slot holds it, and is at the places of certain endpoints. -/
structure CacheState.Keeps
    (state : CacheState)
    (number connection : Ticket)
    (home : String → Prop) : Prop where
  held : (state.slotAt number).connection? = some connection
  placed : ∀ endpoint, home endpoint → state.places.find? endpoint = some number

namespace CacheState.Keeps

variable {state next : CacheState} {flight : Flight} {number connection : Ticket}
  {home : String → Prop}

/-- A departure that leaves the connection in the slot leaves the slot at its places. -/
theorem departs
    (keeps : state.Keeps number connection home)
    {kept? : Option Ticket}
    (departs : state.Departs flight kept? next)
    (own : number = flight.slot → kept? = some connection) :
    next.Keeps number connection home := by
  have held : (next.slotAt number).connection? = some connection := by
    rw [departs.connection?]
    split
    · next same => exact own same
    · exact keeps.held
  refine ⟨held, ?_⟩
  intro endpoint belongs
  have placed := keeps.placed endpoint belongs
  rw [departs.places, if_neg, placed]
  rintro ⟨-, isPlace, unoccupied, -⟩
  obtain rfl := Option.some.inj (placed.symm.trans isPlace)
  rw [Slot.isOccupied, held] at unoccupied
  cases unoccupied

theorem leave
    (keeps : state.Keeps number connection home)
    (flight : Flight) :
    (state.leave flight).Keeps number connection home := by
  refine keeps.departs (state.departs_leave flight) ?_
  rintro rfl
  exact keeps.held

theorem board
    (keeps : state.Keeps number connection home)
    {started : List Ticket}
    (queued : state.Queued started)
    {lookup : Lookup}
    (new : lookup.ticket ∉ started)
    (endpoint : String) :
    (state.board lookup endpoint).1.Keeps number connection home := by
  refine ⟨?_, ?_⟩
  · exact (connection?_board (queued.slotAt_eq_vacant new) endpoint number).trans keeps.held
  · intro other belongs
    have placed := keeps.placed other belongs
    rw [find?_places_board]
    split
    · next same => rw [berth, ← same, placed, Option.getD_some]
    · exact placed

end CacheState.Keeps

namespace Cache

variable {cache : Cache} {span : Ticket → Option LookupSpan} {now : Nat}
  {turn next moment : Turn} {event : Event} {flight : Flight}
  {number connection : Ticket} {home : String → Prop}

/-- An act leaves a connection where it is and as it is, or closes it because it may not be
handed out. -/
theorem Reached.keeps_act
    (reached : Reached cache span now turn)
    (act : Act cache turn next)
    (keeps : turn.state.Keeps number connection home) :
    (next.state.Keeps number connection home ∧
      next.surroundings.stateOf connection = turn.surroundings.stateOf connection) ∨
    ∃ flight, next = evict turn flight connection ∧
      cache.policy.reusable (turn.surroundings.stateOf connection) = false := by
  have queued := reached.queued
  -- A connection in a slot is not that of a lookup under way.
  have ended : ∀ flight ∈ turn.state.flights, connection ≠ flight.ticket := by
    rintro flight member rfl
    exact (queued.connections_over number _ keeps.held).2 (List.mem_map_of_mem member)
  cases act with
  | @cancel flight member fired => exact Or.inl ⟨keeps.leave flight, rfl⟩
  | @reuse flight other member waiting owns held reusable =>
      exact Or.inl ⟨keeps.leave flight, rfl⟩
  | @evict flight other member waiting owns held stale =>
      by_cases same : connection = other
      · exact Or.inr ⟨flight, same ▸ rfl, same ▸ stale⟩
      · have elsewhere : number ≠ flight.slot := by
          rintro rfl
          exact same (Option.some.inj (keeps.held.symm.trans held))
        refine Or.inl ⟨⟨?_, keeps.placed⟩, ?_⟩
        · exact CacheState.connection?_fill_none.mpr ⟨elsewhere, keeps.held⟩
        · exact turn.surroundings.stateOf_report_of_ne same _
  | @refuse flight error member waiting owns empty refused =>
      exact Or.inl ⟨keeps.leave flight, rfl⟩
  | @dial flight config member waiting owns empty prepared =>
      exact Or.inl ⟨⟨keeps.held, keeps.placed⟩,
        turn.surroundings.stateOf_report_of_ne (ended flight member) _⟩
  | @fail flight config error member dialing failed =>
      exact Or.inl ⟨keeps.leave flight, rfl⟩
  | @establish flight config state? member dialing connected =>
      have empty := (queued.dialing flight member (Flight.isDialing_of_phase_eq dialing)).2
      refine Or.inl ⟨?_, ?_⟩
      · refine keeps.departs (turn.state.departs_fill_leave flight (some flight.ticket)) ?_
        rintro rfl
        rw [keeps.held] at empty
        cases empty
      · cases state? with
        | none => rfl
        | some state => exact turn.surroundings.stateOf_report_of_ne (ended flight member) state

/-! ## Connections that may be handed out -/

/-- A slot offers a connection: the slot holds it in a state in which it may be handed out, and
is at the places of certain endpoints. -/
structure Offers
    (cache : Cache)
    (turn : Turn)
    (number connection : Ticket)
    (home : String → Prop) : Prop where
  held : (turn.state.slotAt number).connection? = some connection
  reusable : cache.policy.reusable (turn.surroundings.stateOf connection) = true
  placed : ∀ endpoint, home endpoint → turn.state.places.find? endpoint = some number

theorem Offers.keeps
    (offers : cache.Offers turn number connection home) :
    turn.state.Keeps number connection home :=
  ⟨offers.held, offers.placed⟩

theorem Offers.of_keeps
    (offers : cache.Offers turn number connection home)
    (keeps : next.state.Keeps number connection home)
    (same : next.surroundings.stateOf connection = turn.surroundings.stateOf connection) :
    cache.Offers next number connection home :=
  ⟨keeps.held, same ▸ offers.reusable, keeps.placed⟩

/-- No act takes away a connection that may be handed out. -/
theorem Reached.offers_act
    (reached : Reached cache span now turn)
    (act : Act cache turn next)
    (offers : cache.Offers turn number connection home) :
    cache.Offers next number connection home := by
  rcases reached.keeps_act act offers.keeps with ⟨keeps, same⟩ | ⟨flight, -, stale⟩
  · exact offers.of_keeps keeps same
  · rw [offers.reusable] at stale
    cases stale

/-- No event takes away a connection that may be handed out, and only a clear takes its slot's
places away. -/
theorem Reached.offers_next
    (reached : Reached cache span now turn)
    (event : Event)
    (belongs : ∀ lookup, event = .start lookup →
      lookup.ticket ∉ turn.surroundings.started →
        span lookup.ticket = some ⟨cache.family.resolve lookup.address, now⟩)
    (offers : cache.Offers turn number connection home) :
    ((cache.next turn event).state.slotAt number).connection? = some connection ∧
      (event ≠ .clear → ∀ endpoint, home endpoint →
        (cache.next turn event).state.places.find? endpoint = some number) := by
  by_cases clears : event = .clear
  · subst clears
    exact ⟨offers.held, fun impossible => absurd rfl impossible⟩
  by_cases changes : ∃ change, event = .change change
  · obtain ⟨change, rfl⟩ := changes
    exact ⟨offers.held, fun _ => offers.placed⟩
  rw [not_exists] at changes
  have offered : cache.Offers (cache.next turn event) number connection home := by
    refine reached.kept_by_next Reached.offers_act event belongs offers ?board ?decline
      ?leave ?clear ?change
    case board =>
      intro lookup starts new unfired
      exact offers.of_keeps (offers.keeps.board reached.queued new _) rfl
    case decline => exact fun _ => ⟨offers.held, offers.reusable, offers.placed⟩
    case leave => exact fun flight _ => offers.of_keeps (offers.keeps.leave flight) rfl
    case clear => exact fun clear => absurd clear clears
    case change => exact fun change same => absurd same (changes change)
  exact ⟨offered.held, fun _ => offered.placed⟩

end Cache
end Switchboard
