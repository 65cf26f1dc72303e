import Switchboard.Proofs.Cache.Inspection

/-!
# What is cached

Lookups come and go without changing what is cached.  Only when a slot is filled or emptied is
another connection cached, and only for the endpoint at whose place the slot is.
-/

namespace Switchboard
namespace CacheState

/-- A flight's slot is at the place of its endpoint, and at no other. -/
def IsAtPlace
    (state : CacheState)
    (flight : Flight) : Prop :=
  ∀ endpoint, state.places.find? endpoint = some flight.slot ↔ endpoint = flight.endpoint

/-- What is cached stays cached when a lookup leaves. -/
theorem cached?_leave
    (state : CacheState)
    (flight : Flight)
    (endpoint : String) :
    (state.leave flight).cached? endpoint = state.cached? endpoint := by
  have departs := state.departs_leave flight
  have stays : ∀ number, ((state.leave flight).slotAt number).connection? =
      (state.slotAt number).connection? := by
    intro number
    rw [departs.connection?]
    split
    · next same => rw [same]
    · rfl
  rw [cached?, cached?, departs.places]
  simp only [stays]
  split
  · next useless =>
      obtain ⟨-, placed, unoccupied, -⟩ := useless
      rw [Slot.isOccupied, Bool.or_eq_false_iff, stays, Option.isSome_eq_false_iff,
        Option.isNone_iff_eq_none] at unoccupied
      rw [placed, Option.bind_some, unoccupied.1]
      rfl
  · rfl

theorem cached?_fill
    {state : CacheState}
    {flight : Flight}
    (atPlace : state.IsAtPlace flight)
    (connection? : Option Ticket)
    (endpoint : String) :
    (state.fill flight.slot connection?).cached? endpoint =
      if endpoint = flight.endpoint then connection? else state.cached? endpoint := by
  rw [cached?, cached?, places_fill]
  split
  · next same =>
      rw [(atPlace endpoint).mpr same, Option.bind_some, slotAt_fill, if_pos rfl]
  · next different =>
      apply Option.bind_congr
      intro number placed
      rw [slotAt_fill, if_neg]
      rintro rfl
      exact different ((atPlace endpoint).mp placed)

theorem cached?_of_isAtPlace
    {state : CacheState}
    {flight : Flight}
    (atPlace : state.IsAtPlace flight) :
    state.cached? flight.endpoint = (state.slotAt flight.slot).connection? := by
  rw [cached?, (atPlace flight.endpoint).mpr rfl, Option.bind_some]

/-- What is cached stays cached when a lookup boards. -/
theorem cached?_board
    {state : CacheState}
    {lookup : Lookup}
    (unused : state.slotAt lookup.ticket = .vacant)
    (endpoint other : String) :
    (state.board lookup endpoint).1.cached? other = state.cached? other := by
  rw [cached?, cached?, find?_places_board]
  simp only [connection?_board unused]
  split
  · next same =>
      rw [same, Option.bind_some, berth]
      cases state.places.find? endpoint with
      | none => exact congrArg Slot.connection? unused
      | some number => rfl
  · rfl

/-- The slot of a lookup that boards is at the place of its endpoint. -/
theorem Charted.isAtPlace_board
    {state : CacheState}
    {span : Ticket → Option LookupSpan}
    {now : Nat}
    {started : List Ticket}
    (charted : Charted state span now)
    (queued : Queued state started)
    {lookup : Lookup}
    (new : lookup.ticket ∉ started)
    (endpoint : String) :
    (state.board lookup endpoint).1.IsAtPlace (state.board lookup endpoint).2 := by
  intro other
  rw [board_snd, find?_places_board]
  change (if other = endpoint then some (state.berth endpoint lookup.ticket)
    else state.places.find? other) = some (state.berth endpoint lookup.ticket) ↔
      other = endpoint
  split
  · next same => exact iff_of_true rfl same
  · next different =>
      refine iff_of_false ?_ different
      intro placed
      rw [berth] at placed
      cases home : state.places.find? endpoint with
      | none =>
          rw [home] at placed
          exact new (queued.places_started other _ placed)
      | some number =>
          rw [home] at placed
          have same := (charted.places_span other number placed).symm.trans
            (charted.places_span endpoint number home)
          rw [Option.some.injEq, LookupSpan.mk.injEq] at same
          exact different same.1

end CacheState
end Switchboard
