import Switchboard.Proofs.Sending
import Switchboard.Proofs.Text.Octets

/-!
# Ids that are received

An id is refused if it has a control of ASCII other than the tab; any other id is sent.  The
receiver reads visible ASCII only: an id of ASCII arrives as it was sent, and one with any other
character does not arrive at all.
-/

namespace Switchboard
namespace Text

/-- A character is a control of ASCII other than the tab. -/
def IsControl (char : Char) : Prop :=
  char ≠ '\t' ∧ (char.toNat < 32 ∨ char.toNat = 127)

/-- A text has characters of ASCII only. -/
def IsAscii (text : String) : Prop :=
  ∀ char ∈ text.toList, char.toNat < 0x80

instance (text : String) : Decidable (IsAscii text) :=
  inferInstanceAs (Decidable (∀ char ∈ text.toList, char.toNat < 0x80))

theorem isControl_iff (char : Char) :
    IsControl char ↔ char.toNat ≠ 9 ∧ (char.toNat < 32 ∨ char.toNat = 127) := by
  have tab : char = '\t' ↔ char.toNat = 9 := Char.toNat_inj.symm
  rw [IsControl, Ne, tab]

/-- A character beyond ASCII is written in octets beyond ASCII. -/
theorem le_of_mem_encode
    {char : Char}
    (large : 0x80 ≤ char.toNat) :
    ∀ octet ∈ String.utf8EncodeChar char, 0x80 ≤ octet.toNat := by
  have spells := spells_encode char
  generalize String.utf8EncodeChar char = source at spells ⊢
  generalize char.toNat = number at spells large
  cases spells with
  | one small => simpa using large
  | two begins ends spelled =>
      have last := ends.above
      simp
      omega
  | three begins goesOn floor ceiling ends spelled =>
      have second := goesOn.above
      have last := ends.above
      simp
      omega
  | four begins goesOn floor ceiling still ends spelled =>
      have second := goesOn.above
      have third := still.above
      have last := ends.above
      simp
      omega

end Text

namespace Metadata

theorem legalOctet_iff (octet : UInt8) :
    octet = 9 ∨ 32 ≤ octet ∧ octet ≠ 127 ↔
      octet.toNat = 9 ∨ 32 ≤ octet.toNat ∧ octet.toNat ≠ 127 := by
  simp [← UInt8.toNat_inj, UInt8.le_iff_toNat_le]

/-- The octets of a character may be sent exactly if it is no control. -/
theorem isLegal_encode_iff (char : Char) :
    IsLegal (String.utf8EncodeChar char) ↔ ¬Text.IsControl char := by
  simp only [IsLegal, legalOctet_iff, Text.isControl_iff]
  rcases Nat.lt_or_ge char.toNat 0x80 with small | large
  · rw [Text.encode_one small, List.forall_mem_singleton, Text.toNat_ofNat (by omega)]
    omega
  · refine iff_of_true (fun octet member => ?_) (by omega)
    have above := Text.le_of_mem_encode large octet member
    omega

/-- A text may be sent exactly if it has no controls. -/
theorem isLegal_octets_iff (text : String) :
    IsLegal (Text.octets text) ↔ ∀ char ∈ text.toList, ¬Text.IsControl char := by
  simp only [← isLegal_encode_iff]
  exact List.forall_mem_flatMap

theorem isReadableOctet_iff (octet : UInt8) :
    isReadableOctet octet = true ↔
      octet.toNat = 9 ∨ 32 ≤ octet.toNat ∧ octet.toNat < 127 := by
  simp [isReadableOctet, ← UInt8.toNat_inj, UInt8.le_iff_toNat_le, UInt8.lt_iff_toNat_lt]

/-- The octets of a character that may be sent can be read exactly if it is one of ASCII. -/
theorem all_isReadableOctet_encode_iff
    {char : Char}
    (plain : ¬Text.IsControl char) :
    (String.utf8EncodeChar char).all isReadableOctet = true ↔ char.toNat < 0x80 := by
  rw [Text.isControl_iff] at plain
  simp only [List.all_eq_true, isReadableOctet_iff]
  rcases Nat.lt_or_ge char.toNat 0x80 with small | large
  · rw [Text.encode_one small, List.forall_mem_singleton, Text.toNat_ofNat (by omega)]
    omega
  · refine iff_of_false (fun readable => ?_) (by omega)
    have written : String.utf8EncodeChar char ≠ [] := by
      rw [← List.length_pos_iff, String.length_utf8EncodeChar]
      exact char.utf8Size_pos
    obtain ⟨octet, member⟩ := List.exists_mem_of_ne_nil _ written
    have above := Text.le_of_mem_encode large octet member
    have below := readable octet member
    omega

/-- What may be sent can be read exactly if it is a text of ASCII. -/
theorem all_isReadableOctet_octets_iff
    {text : String}
    (legal : IsLegal (Text.octets text)) :
    (Text.octets text).all isReadableOctet = true ↔ Text.IsAscii text := by
  have plain := (isLegal_octets_iff text).mp legal
  rw [Text.octets, List.all_flatMap, List.all_eq_true]
  exact forall₂_congr fun char member => all_isReadableOctet_encode_iff (plain char member)

/-- The octets of a text of ASCII are its characters. -/
theorem chars_octets
    {text : String}
    (ascii : Text.IsAscii text) :
    ((Text.octets text).map fun octet => Char.ofNat octet.toNat) = text.toList := by
  have alone : ∀ char ∈ text.toList,
      ((String.utf8EncodeChar char).map fun octet => Char.ofNat octet.toNat) = [char] := by
    intro char member
    have small := ascii char member
    rw [Text.encode_one small, List.map_singleton, Text.toNat_ofNat (by omega), Char.ofNat_toNat]
  rw [Text.octets, List.map_flatMap, List.flatMap_congr alone, List.flatMap_singleton']

/-- A text that may be sent is read back as it is, or cannot be read. -/
theorem read?_octets
    {text : String}
    (legal : IsLegal (Text.octets text)) :
    read? (Text.octets text) = if Text.IsAscii text then some text else none := by
  have readable := all_isReadableOctet_octets_iff legal
  rw [read?]
  split
  · next all =>
      have ascii := readable.mp all
      rw [if_pos ascii, chars_octets ascii, String.ofList_toList]
  · next unreadable => rw [if_neg (mt readable.mpr unreadable)]

end Metadata

namespace CorrelationId

/-- What becomes of an id that is attached to a request with certain metadata, on a connection
without credentials. -/
structure Travels
    (id : CorrelationId)
    (metadata : Metadata) : Prop where
  /-- The request is refused, for its argument, if the id has a control. -/
  refused : (∃ char ∈ id.text.toList, Text.IsControl char) →
    Interceptor.plain.send ((Request.ofMetadata metadata).attach id) =
      .error ⟨.invalidArgument, "correlation id is not valid metadata"⟩
  /-- Otherwise it is sent, and its receiver reads the id that was sent, unless the id has
  characters beyond ASCII; then there is no id to be read. -/
  received : (∀ char ∈ id.text.toList, ¬Text.IsControl char) →
    ∃ sent, Interceptor.plain.send ((Request.ofMetadata metadata).attach id) = .ok sent ∧
      ofMetadata? sent = if Text.IsAscii id.text then some id else none

/-- Every id travels so. -/
theorem travels
    (id : CorrelationId)
    (metadata : Metadata) :
    id.Travels metadata := by
  have unaided : Interceptor.plain.credentials? = none := rfl
  have sends : Interceptor.plain.send ((Request.ofMetadata metadata).attach id) =
      id.apply metadata := by
    rw [Interceptor.send_of_none unaided]
    rfl
  have legal_iff := Metadata.isLegal_octets_iff id.text
  constructor
  · rintro ⟨char, member, control⟩
    have illegal : ¬Metadata.IsLegal id.value := fun legal =>
      legal_iff.mp legal char member control
    rw [sends, apply_eq, if_neg (mt (Metadata.isSendable_iff _).mp illegal)]
    rfl
  · intro plain
    have legal : Metadata.IsLegal id.value := legal_iff.mpr plain
    refine ⟨metadata.put key id.value, ?_, ?_⟩
    · rw [sends, apply_eq, if_pos ((Metadata.isSendable_iff _).mpr legal)]
    · rw [ofMetadata?, metadata.values_put_self, List.head?_cons, Option.bind_some, value,
        Metadata.read?_octets legal]
      split <;> rfl

/-- An id with an accent is sent, and does not arrive. -/
theorem accented_lost :
    ∃ sent, Interceptor.plain.send ((Request.ofMetadata .empty).attach ⟨"é"⟩) = .ok sent ∧
      ofMetadata? sent = none :=
  ⟨⟨[("x-correlation-id", [0xC3, 0xA9])]⟩, by decide, by decide⟩

end CorrelationId
end Switchboard
