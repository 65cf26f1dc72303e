import Switchboard.Proofs.Cache.Whereabouts
import Switchboard.Proofs.Endpoint

/-!
# Addresses that meet

Two addresses meet when they have one canonical endpoint.  An address that carries a port meets
only itself and what becomes that address when its default port is appended; an address without
a port keeps its default port apart from all others.  What two addresses share in a cache they
share because they meet.
-/

namespace Switchboard
namespace Endpoint

/-- An address carries a port: if a bracket begins it, a colon behind a closing bracket, and
otherwise any colon. -/
def CarriesPort (address : String) : Prop :=
  if address.toList.head? = some '[' then
    [']', ':'] <:+: address.toList
  else
    ':' ∈ address.toList

theorem hasPort_iff (address : String) :
    hasPort address.toList = true ↔ CarriesPort address := by
  rw [hasPort_eq, CarriesPort]
  split
  · exact bracketColon_iff _
  · exact List.contains_iff_mem

/-- How two addresses come to have one endpoint under their default ports. -/
inductive Meet
    (address : String)
    (port : Nat)
    (other : String)
    (otherPort : Nat) : Prop
  /-- Both carry a port, and they are the same. -/
  | ported
      (carries : CarriesPort address)
      (otherCarries : CarriesPort other)
      (same : address = other)
  /-- Only the first one carries a port: it is the other one and its default port. -/
  | first
      (carries : CarriesPort address)
      (otherPortless : ¬CarriesPort other)
      (same : address = other ++ ":" ++ toString otherPort)
  /-- Only the second one carries a port: it is the first one and its default port. -/
  | second
      (portless : ¬CarriesPort address)
      (otherCarries : CarriesPort other)
      (same : other = address ++ ":" ++ toString port)
  /-- Neither carries a port; they are the same, and so are their default ports. -/
  | portless
      (portless : ¬CarriesPort address)
      (otherPortless : ¬CarriesPort other)
      (same : address = other)
      (samePort : port = otherPort)

/-! ## Appended ports -/

theorem toList_port (port : Nat) : (toString port).toList = Nat.toDigits 10 port :=
  Nat.toList_repr

theorem colon_notMem_port (port : Nat) : ':' ∉ (toString port).toList := by
  rw [toList_port]
  intro member
  have isDigit : (':').isDigit = true :=
    Nat.isDigit_of_mem_toDigits (by decide) (by decide) member
  exact absurd isDigit (by decide)

/-- A text is split by its last colon in one way only. -/
theorem append_colon_inj
    {left right before after : List Char}
    (last : ':' ∉ left)
    (otherLast : ':' ∉ right)
    (same : before ++ ':' :: left = after ++ ':' :: right) :
    before = after ∧ left = right := by
  rcases List.append_eq_append_iff.mp same with ⟨more, rfl, rest⟩ | ⟨more, rfl, rest⟩
  · cases more with
    | nil => exact ⟨(List.append_nil _).symm, (List.cons.inj rest).2⟩
    | cons first others =>
        rw [(List.cons.inj rest).2] at last
        exact absurd (List.mem_append_right _ List.mem_cons_self) last
  · cases more with
    | nil => exact ⟨List.append_nil _, (List.cons.inj rest).2.symm⟩
    | cons first others =>
        rw [(List.cons.inj rest).2] at otherLast
        exact absurd (List.mem_append_right _ List.mem_cons_self) otherLast

/-- What has a port appended tells both the address and the port. -/
theorem append_port_inj
    {address other : String}
    {port otherPort : Nat}
    (same : address ++ ":" ++ toString port = other ++ ":" ++ toString otherPort) :
    address = other ∧ port = otherPort := by
  have written : ∀ (text : String) (number : Nat), (text ++ ":" ++ toString number).toList =
      text.toList ++ ':' :: (toString number).toList := by
    intro text number
    rw [String.toList_append, String.toList_append, List.append_assoc]
    rfl
  have chars := congrArg String.toList same
  rw [written, written] at chars
  obtain ⟨sameChars, sameDigits⟩ :=
    append_colon_inj (colon_notMem_port port) (colon_notMem_port otherPort) chars
  rw [toList_port, toList_port] at sameDigits
  have samePort := congrArg (Nat.ofDigitChars 10 · 0) sameDigits
  rw [Nat.ofDigitChars_ten_toDigits, Nat.ofDigitChars_ten_toDigits] at samePort
  exact ⟨String.toList_inj.mp sameChars, samePort⟩

theorem resolve_of_carriesPort
    {address : String}
    (carries : CarriesPort address)
    (port : Nat) :
    resolve address port = address :=
  resolve_of_hasPort ((hasPort_iff address).mpr carries) port

theorem resolve_of_not_carriesPort
    {address : String}
    (portless : ¬CarriesPort address)
    (port : Nat) :
    resolve address port = address ++ ":" ++ toString port :=
  resolve_of_portless (Bool.eq_false_iff.mpr (mt (hasPort_iff address).mp portless)) port

/-- Exactly the addresses that meet have one endpoint. -/
theorem resolve_eq_resolve_iff
    (address : String)
    (port : Nat)
    (other : String)
    (otherPort : Nat) :
    resolve address port = resolve other otherPort ↔ Meet address port other otherPort := by
  constructor
  · intro same
    by_cases carries : CarriesPort address
    · rw [resolve_of_carriesPort carries] at same
      by_cases otherCarries : CarriesPort other
      · rw [resolve_of_carriesPort otherCarries] at same
        exact .ported carries otherCarries same
      · rw [resolve_of_not_carriesPort otherCarries] at same
        exact .first carries otherCarries same
    · rw [resolve_of_not_carriesPort carries] at same
      by_cases otherCarries : CarriesPort other
      · rw [resolve_of_carriesPort otherCarries] at same
        exact .second carries otherCarries same.symm
      · rw [resolve_of_not_carriesPort otherCarries] at same
        obtain ⟨same, samePort⟩ := append_port_inj same
        exact .portless carries otherCarries same samePort
  · intro meet
    cases meet with
    | ported carries otherCarries same =>
        rw [resolve_of_carriesPort carries, resolve_of_carriesPort otherCarries, same]
    | first carries otherPortless same =>
        rw [resolve_of_carriesPort carries, resolve_of_not_carriesPort otherPortless, same]
    | second portless otherCarries same =>
        rw [resolve_of_not_carriesPort portless, resolve_of_carriesPort otherCarries, same]
    | portless _ _ same samePort => rw [same, samePort]

end Endpoint

/-! ## What addresses share -/

namespace Cache

open Endpoint History

/-- Two addresses meet in a cache: they do so under the default port of its family. -/
def Meet
    (cache : Cache)
    (address other : String) : Prop :=
  Endpoint.Meet address cache.family.defaultPort other cache.family.defaultPort

theorem meet_of_resolve_eq
    {cache : Cache}
    {address other : String}
    (same : cache.family.resolve address = cache.family.resolve other) :
    cache.Meet address other :=
  (resolve_eq_resolve_iff _ _ _ _).mp same

/-- What two addresses share in a cache they share because they meet. -/
structure SharedByMeeting
    (cache : Cache)
    (events : List Event)
    (turn : Turn) : Prop where
  /-- The slot of an address is that of another one exactly if they meet. -/
  slots : ∀ address other number,
    turn.state.places.find? (cache.family.resolve address) = some number →
      (turn.state.places.find? (cache.family.resolve other) = some number ↔
        cache.Meet address other)
  /-- Two lookups under way have one slot only if their addresses meet. -/
  lookups : ∀ flight ∈ turn.state.flights, ∀ other ∈ turn.state.flights,
    flight.slot = other.slot → cache.Meet flight.lookup.address other.lookup.address
  /-- A lookup gets the connection of another one only if their addresses meet. -/
  connections : ∀ ticket connection, .returned ticket (.ok connection) ∈ turn.effects →
    ∃ lookup dialer, lookup? events ticket = some lookup ∧
      lookup? events connection = some dialer ∧ cache.Meet lookup.address dialer.address

/-- After every history addresses share only what they share by meeting. -/
theorem sharedByMeeting_after
    (cache : Cache)
    (surroundings : Surroundings)
    (events : List Event) :
    cache.SharedByMeeting events (cache.after surroundings events) := by
  have reached := cache.reached_end surroundings events
  have charted := reached.charted
  refine ⟨?_, ?_, ?_⟩
  · intro address other number placed
    constructor
    · intro otherPlaced
      have home := charted.places_span _ number placed
      have same := home.symm.trans (charted.places_span _ number otherPlaced)
      rw [Option.some.injEq, LookupSpan.mk.injEq] at same
      exact meet_of_resolve_eq same.1
    · intro meet
      have same : cache.family.resolve address = cache.family.resolve other :=
        (resolve_eq_resolve_iff _ _ _ _).mpr meet
      rw [← same, placed]
  · intro flight member other otherMember same
    obtain ⟨epoch, -, home⟩ := charted.flights_span flight member
    obtain ⟨otherEpoch, -, otherHome⟩ := charted.flights_span other otherMember
    rw [same, otherHome, Option.some.injEq, LookupSpan.mk.injEq] at home
    apply meet_of_resolve_eq
    rw [← reached.endpoint_eq flight member, ← reached.endpoint_eq other otherMember, home.1]
  · intro ticket connection returned
    obtain ⟨lookup, found, home, -⟩ :=
      cache.exists_dialed_of_returned surroundings events returned
    obtain ⟨dialer, dialerFound, same⟩ := span?_eq_some home
    rw [LookupSpan.mk.injEq] at same
    exact ⟨lookup, dialer, found, dialerFound, meet_of_resolve_eq same.1⟩

end Cache

/-- Addresses have one endpoint exactly if they meet; without ports they do not meet under
different default ports, and whatever they share in a cache they share by meeting. -/
theorem Endpoint.addresses_meet :
    (∀ address port other otherPort,
      resolve address port = resolve other otherPort ↔ Meet address port other otherPort) ∧
    (∀ address other, ¬CarriesPort address → ¬CarriesPort other → ∀ port otherPort,
      port ≠ otherPort → resolve address port ≠ resolve other otherPort) ∧
    ∀ (cache : Cache) (surroundings : Surroundings) (events : List Event),
      cache.SharedByMeeting events (cache.after surroundings events) := by
  refine ⟨resolve_eq_resolve_iff, ?_, Cache.sharedByMeeting_after⟩
  intro address other portless otherPortless port otherPort different same
  cases (resolve_eq_resolve_iff _ _ _ _).mp same with
  | ported carries _ _ => exact portless carries
  | first carries _ _ => exact portless carries
  | second _ otherCarries _ => exact otherPortless otherCarries
  | portless _ _ _ samePort => exact different samePort

-- A port that is written out is read as the default port would be, whatever the other default is.
example : Endpoint.resolve "[::1]" 55000 = Endpoint.resolve "[::1]:55000" 55051 := by
  decide

end Switchboard
