import Switchboard.Text.Octets
import Mathlib.Data.List.Basic

/-!
# Decoding what has been encoded

Exactly the octets of a text are decoded to it.  A character is read off its octets, and
octets that are read as a character are the octets of that character.
-/

namespace Switchboard
namespace Text

/-! ## Octets of a character -/

theorem encode_one
    {char : Char}
    (small : char.toNat < 0x80) :
    String.utf8EncodeChar char = [.ofNat char.toNat] := by
  have bound : char.val.toNat ≤ 127 := Nat.le_of_lt_succ small
  rw [String.utf8EncodeChar, if_pos bound]
  rfl

theorem encode_two
    {char : Char}
    (low : 0x80 ≤ char.toNat)
    (high : char.toNat < 0x800) :
    String.utf8EncodeChar char =
      [.ofNat (char.toNat / 64 + 0xC0), .ofNat (char.toNat % 64 + 0x80)] := by
  have above : ¬char.val.toNat ≤ 127 := Nat.not_le_of_lt low
  have below : char.val.toNat ≤ 2047 := Nat.le_of_lt_succ high
  have small : char.toNat / 64 % 32 = char.toNat / 64 := by omega
  rw [String.utf8EncodeChar, if_neg above, if_pos below]
  exact congrArg (fun bits => [UInt8.ofNat (bits + 0xC0), _]) small

theorem encode_three
    {char : Char}
    (low : 0x800 ≤ char.toNat)
    (high : char.toNat < 0x10000) :
    String.utf8EncodeChar char =
      [.ofNat (char.toNat / 4096 + 0xE0), .ofNat (char.toNat / 64 % 64 + 0x80),
        .ofNat (char.toNat % 64 + 0x80)] := by
  have above : ¬char.val.toNat ≤ 127 := by
    change ¬char.toNat ≤ 127
    omega
  have more : ¬char.val.toNat ≤ 2047 := Nat.not_le_of_lt low
  have below : char.val.toNat ≤ 65535 := Nat.le_of_lt_succ high
  have small : char.toNat / 4096 % 16 = char.toNat / 4096 := by omega
  rw [String.utf8EncodeChar, if_neg above, if_neg more, if_pos below]
  exact congrArg (fun bits => [UInt8.ofNat (bits + 0xE0), _, _]) small

theorem encode_four
    {char : Char}
    (low : 0x10000 ≤ char.toNat) :
    String.utf8EncodeChar char =
      [.ofNat (char.toNat / 262144 + 0xF0), .ofNat (char.toNat / 4096 % 64 + 0x80),
        .ofNat (char.toNat / 64 % 64 + 0x80), .ofNat (char.toNat % 64 + 0x80)] := by
  have above : ¬char.val.toNat ≤ 127 := by
    change ¬char.toNat ≤ 127
    omega
  have more : ¬char.val.toNat ≤ 2047 := by
    change ¬char.toNat ≤ 2047
    omega
  have most : ¬char.val.toNat ≤ 65535 := Nat.not_le_of_lt low
  have valid : char.toNat < 0x110000 := by
    rcases char.valid with small | ⟨-, bound⟩
    · exact Nat.lt_of_lt_of_le small (by decide)
    · exact bound
  have small : char.toNat / 262144 % 8 = char.toNat / 262144 := by omega
  rw [String.utf8EncodeChar, if_neg above, if_neg more, if_neg most]
  exact congrArg (fun bits => [UInt8.ofNat (bits + 0xF0), _, _, _]) small

/-! ## Reading octets -/

theorem toNat_ofNat
    {number : Nat}
    (small : number < 256) :
    (UInt8.ofNat number).toNat = number := by
  rw [UInt8.toNat_ofNat']
  exact Nat.mod_eq_of_lt small

/-- What an octet begins, by its number. -/
theorem beginning_eq (octet : UInt8) :
    beginning octet =
      if octet.toNat < 0x80 then .character (Char.ofNat octet.toNat)
      else if octet.toNat < 0xC2 then .flaw
      else if octet.toNat < 0xE0 then .sequence ⟨octet.toNat - 0xC0, 0, 0x80, 0xBF⟩
      else if octet.toNat < 0xF0 then
        .sequence
          ⟨octet.toNat - 0xE0, 1,
            if octet.toNat = 0xE0 then 0xA0 else 0x80,
            if octet.toNat = 0xED then 0x9F else 0xBF⟩
      else if octet.toNat < 0xF5 then
        .sequence
          ⟨octet.toNat - 0xF0, 2,
            if octet.toNat = 0xF0 then 0x90 else 0x80,
            if octet.toNat = 0xF4 then 0x8F else 0xBF⟩
      else .flaw := by
  simp only [beginning, UInt8.lt_iff_toNat_lt, ← UInt8.toNat_inj]
  rfl

theorem scan_cons_of_character
    {octet : UInt8}
    {char : Char}
    (begins : beginning octet = .character char)
    (rest : Octets) :
    scan none (octet :: rest) = some char :: scan none rest := by
  rw [scan, begins]

theorem scan_cons_of_sequence
    {octet : UInt8}
    {unfinished : Unfinished}
    (begins : beginning octet = .sequence unfinished)
    (rest : Octets) :
    scan none (octet :: rest) = scan (some unfinished) rest := by
  rw [scan, begins]

/-- An octet that goes on with a character, without a narrower bound. -/
structure IsTail (octet : UInt8) : Prop where
  above : 0x80 ≤ octet.toNat
  below : octet.toNat ≤ 0xBF

theorem IsTail.within
    {octet : UInt8}
    (tail : IsTail octet) :
    (0x80 : UInt8).toNat ≤ octet.toNat ∧ octet.toNat ≤ (0xBF : UInt8).toNat :=
  ⟨tail.above, tail.below⟩

/-- The last octet of a character completes it. -/
theorem scan_last
    {bits : Nat}
    {octet : UInt8}
    (tail : IsTail octet)
    (rest : Octets) :
    scan (some ⟨bits, 0, 0x80, 0xBF⟩) (octet :: rest) =
      some (Char.ofNat (bits * 64 + (octet.toNat - 0x80))) :: scan none rest := by
  obtain ⟨above, below⟩ := tail.within
  rw [scan, if_pos ⟨UInt8.le_iff_toNat_le.mpr above, UInt8.le_iff_toNat_le.mpr below⟩]

/-- Any other octet of a character leaves it unfinished. -/
theorem scan_more
    {bits owed : Nat}
    {low high octet : UInt8}
    (within : low.toNat ≤ octet.toNat ∧ octet.toNat ≤ high.toNat)
    (rest : Octets) :
    scan (some ⟨bits, owed + 1, low, high⟩) (octet :: rest) =
      scan (some ⟨bits * 64 + (octet.toNat - 0x80), owed, 0x80, 0xBF⟩) rest := by
  rw [scan, if_pos (within.imp UInt8.le_iff_toNat_le.mpr UInt8.le_iff_toNat_le.mpr)]

/-! ## Octets that spell a character -/

/-- The octets of one character, and the number of the character. -/
inductive Spells : Octets → Nat → Prop
  | one
      {octet : UInt8}
      (small : octet.toNat < 0x80) :
      Spells [octet] octet.toNat
  | two
      {first last : UInt8}
      {number : Nat}
      (begins : 0xC2 ≤ first.toNat ∧ first.toNat < 0xE0)
      (ends : IsTail last)
      (spelled : number = (first.toNat - 0xC0) * 64 + (last.toNat - 0x80)) :
      Spells [first, last] number
  | three
      {first second last : UInt8}
      {number : Nat}
      (begins : 0xE0 ≤ first.toNat ∧ first.toNat < 0xF0)
      (goesOn : IsTail second)
      -- Neither a number that two octets can spell nor a surrogate.
      (floor : first.toNat = 0xE0 → 0xA0 ≤ second.toNat)
      (ceiling : first.toNat = 0xED → second.toNat ≤ 0x9F)
      (ends : IsTail last)
      (spelled : number =
        ((first.toNat - 0xE0) * 64 + (second.toNat - 0x80)) * 64 + (last.toNat - 0x80)) :
      Spells [first, second, last] number
  | four
      {first second third last : UInt8}
      {number : Nat}
      (begins : 0xF0 ≤ first.toNat ∧ first.toNat < 0xF5)
      (goesOn : IsTail second)
      -- Neither a number that three octets can spell nor one above all characters.
      (floor : first.toNat = 0xF0 → 0x90 ≤ second.toNat)
      (ceiling : first.toNat = 0xF4 → second.toNat ≤ 0x8F)
      (still : IsTail third)
      (ends : IsTail last)
      (spelled : number =
        (((first.toNat - 0xF0) * 64 + (second.toNat - 0x80)) * 64 + (third.toNat - 0x80)) * 64 +
          (last.toNat - 0x80)) :
      Spells [first, second, third, last] number

theorem toNat_tail (number : Nat) :
    (UInt8.ofNat (number % 64 + 0x80)).toNat = number % 64 + 0x80 :=
  toNat_ofNat (by omega)

theorem isTail_ofNat (number : Nat) : IsTail (.ofNat (number % 64 + 0x80)) := by
  constructor <;> rw [toNat_tail] <;> omega

/-- The octets of a character spell its number. -/
theorem spells_encode (char : Char) :
    Spells (String.utf8EncodeChar char) char.toNat := by
  have valid : char.toNat < 0xD800 ∨ 0xDFFF < char.toNat ∧ char.toNat < 0x110000 := char.valid
  have last := toNat_tail char.toNat
  rcases Nat.lt_or_ge char.toNat 0x80 with one | aboveOne
  · have octet := @toNat_ofNat char.toNat (by omega)
    have spells := @Spells.one (.ofNat char.toNat) (by rwa [octet])
    rwa [octet, ← encode_one one] at spells
  rcases Nat.lt_or_ge char.toNat 0x800 with two | aboveTwo
  · have first := @toNat_ofNat (char.toNat / 64 + 0xC0) (by omega)
    rw [encode_two aboveOne two]
    exact .two (by omega) (isTail_ofNat _) (by omega)
  rcases Nat.lt_or_ge char.toNat 0x10000 with three | aboveThree
  · have first := @toNat_ofNat (char.toNat / 4096 + 0xE0) (by omega)
    have second := toNat_tail (char.toNat / 64)
    rw [encode_three aboveTwo three]
    exact .three (by omega) (isTail_ofNat _) (by omega) (by omega) (isTail_ofNat _) (by omega)
  · have first := @toNat_ofNat (char.toNat / 262144 + 0xF0) (by omega)
    have second := toNat_tail (char.toNat / 4096)
    have third := toNat_tail (char.toNat / 64)
    rw [encode_four aboveThree]
    exact .four (by omega) (isTail_ofNat _) (by omega) (by omega) (isTail_ofNat _)
      (isTail_ofNat _) (by omega)

theorem toNat_ofNat_of_valid
    {number : Nat}
    (valid : number < 0xD800 ∨ 0xDFFF < number ∧ number < 0x110000) :
    (Char.ofNat number).toNat = number := by
  rw [Char.ofNat, dif_pos valid]
  rfl

theorem ofNat_eq
    {number : Nat}
    {octet : UInt8}
    (same : number = octet.toNat) :
    UInt8.ofNat number = octet := by
  rw [same, UInt8.ofNat_toNat]

/-- Octets that spell a number are those of the character with the number. -/
theorem Spells.encode_eq
    {source : Octets}
    {number : Nat}
    (spells : Spells source number) :
    String.utf8EncodeChar (Char.ofNat number) = source := by
  cases spells with
  | @one octet small =>
      have same := @toNat_ofNat_of_valid octet.toNat (by omega)
      rw [encode_one (by omega), same, UInt8.ofNat_toNat]
  | @two first last number begins ends spelled =>
      obtain ⟨above, below⟩ := ends
      have same := @toNat_ofNat_of_valid number (by omega)
      rw [encode_two (by omega) (by omega), same, @ofNat_eq _ first (by omega),
        @ofNat_eq _ last (by omega)]
  | @three first second last number begins goesOn floor ceiling ends spelled =>
      obtain ⟨aboveSecond, belowSecond⟩ := goesOn
      obtain ⟨above, below⟩ := ends
      have same := @toNat_ofNat_of_valid number (by omega)
      rw [encode_three (by omega) (by omega), same, @ofNat_eq _ first (by omega),
        @ofNat_eq _ second (by omega), @ofNat_eq _ last (by omega)]
  | @four first second third last number begins goesOn floor ceiling still ends spelled =>
      obtain ⟨aboveSecond, belowSecond⟩ := goesOn
      obtain ⟨aboveThird, belowThird⟩ := still
      obtain ⟨above, below⟩ := ends
      have same := @toNat_ofNat_of_valid number (by omega)
      rw [encode_four (by omega), same, @ofNat_eq _ first (by omega),
        @ofNat_eq _ second (by omega), @ofNat_eq _ third (by omega), @ofNat_eq _ last (by omega)]

/-! ## Reading what is spelled -/

/-- The bounds of the second octet are those of a tail, and narrower ones behind some first
octets. -/
theorem within_iff
    {tight slack : Prop}
    [Decidable tight]
    [Decidable slack]
    {floor ceiling octet : UInt8}
    (insideFloor : 0x80 ≤ floor.toNat)
    (insideCeiling : ceiling.toNat ≤ 0xBF) :
    ((if tight then floor else 0x80).toNat ≤ octet.toNat ∧
        octet.toNat ≤ (if slack then ceiling else 0xBF).toNat) ↔
      IsTail octet ∧ (tight → floor.toNat ≤ octet.toNat) ∧
        (slack → octet.toNat ≤ ceiling.toNat) := by
  constructor
  · rintro ⟨above, below⟩
    refine ⟨⟨?_, ?_⟩, fun narrow => ?_, fun narrow => ?_⟩
    · split at above
      · exact Nat.le_trans insideFloor above
      · exact above
    · split at below
      · exact Nat.le_trans below insideCeiling
      · exact below
    · rwa [if_pos narrow] at above
    · rwa [if_pos narrow] at below
  · rintro ⟨tail, above, below⟩
    constructor
    · split
      · next narrow => exact above narrow
      · exact tail.above
    · split
      · next narrow => exact below narrow
      · exact tail.below

/-- Octets that spell a number are read as the character with the number. -/
theorem Spells.scan_append
    {source : Octets}
    {number : Nat}
    (spells : Spells source number)
    (rest : Octets) :
    scan none (source ++ rest) = some (Char.ofNat number) :: scan none rest := by
  cases spells with
  | @one octet small =>
      have begins := beginning_eq octet
      rw [if_pos small] at begins
      exact scan_cons_of_character begins rest
  | @two first last number bounds ends spelled =>
      have begins := beginning_eq first
      rw [if_neg (by omega), if_neg (by omega), if_pos (by omega)] at begins
      rw [spelled, List.cons_append, List.singleton_append, scan_cons_of_sequence begins,
        scan_last ends]
  | @three first second last number bounds goesOn floor ceiling ends spelled =>
      have begins := beginning_eq first
      rw [if_neg (by omega), if_neg (by omega), if_neg (by omega), if_pos (by omega)] at begins
      have within := (@within_iff _ _ _ _ 0xA0 0x9F _ (by decide) (by decide)).mpr
        ⟨goesOn, floor, ceiling⟩
      rw [spelled, List.cons_append, List.cons_append, List.singleton_append,
        scan_cons_of_sequence begins, scan_more within, scan_last ends]
  | @four first second third last number bounds goesOn floor ceiling still ends spelled =>
      have begins := beginning_eq first
      rw [if_neg (by omega), if_neg (by omega), if_neg (by omega), if_neg (by omega),
        if_pos (by omega)] at begins
      have within := (@within_iff _ _ _ _ 0x90 0x8F _ (by decide) (by decide)).mpr
        ⟨goesOn, floor, ceiling⟩
      rw [spelled, List.cons_append, List.cons_append, List.cons_append, List.singleton_append,
        scan_cons_of_sequence begins, scan_more within,
        scan_more still.within, scan_last ends]

/-- A character that is begun and has no flaw is continued. -/
theorem exists_of_scan_some
    {unfinished : Unfinished}
    {source : Octets}
    {chars : List Char}
    (sound : scan (some unfinished) source = chars.map some) :
    ∃ octet rest, source = octet :: rest ∧
      unfinished.low.toNat ≤ octet.toNat ∧ octet.toNat ≤ unfinished.high.toNat := by
  cases source with
  | nil =>
      rw [scan] at sound
      cases chars <;> cases sound
  | cons octet rest =>
      refine ⟨octet, rest, rfl, ?_⟩
      rw [← UInt8.le_iff_toNat_le, ← UInt8.le_iff_toNat_le]
      by_contra outside
      rw [scan, if_neg outside] at sound
      revert sound
      cases beginning octet <;> cases chars <;> nofun

/-- A character that still owes octets and has no flaw is continued and stays so. -/
theorem exists_of_scan_more
    {bits owed : Nat}
    {low high : UInt8}
    {source : Octets}
    {chars : List Char}
    (sound : scan (some ⟨bits, owed + 1, low, high⟩) source = chars.map some) :
    ∃ octet rest, source = octet :: rest ∧
      (low.toNat ≤ octet.toNat ∧ octet.toNat ≤ high.toNat) ∧
      scan (some ⟨bits * 64 + (octet.toNat - 0x80), owed, 0x80, 0xBF⟩) rest =
        chars.map some := by
  obtain ⟨octet, rest, rfl, within⟩ := exists_of_scan_some sound
  rw [scan_more within] at sound
  exact ⟨octet, rest, rfl, within, sound⟩

/-- A character that owes only one more octet and has no flaw is completed by it. -/
theorem exists_of_scan_last
    {bits : Nat}
    {source : Octets}
    {chars : List Char}
    (sound : scan (some ⟨bits, 0, 0x80, 0xBF⟩) source = chars.map some) :
    ∃ octet rest, source = octet :: rest ∧ IsTail octet ∧
      some (Char.ofNat (bits * 64 + (octet.toNat - 0x80))) :: scan none rest =
        chars.map some := by
  obtain ⟨octet, rest, rfl, above, below⟩ := exists_of_scan_some sound
  have tail : IsTail octet := ⟨above, below⟩
  rw [scan_last tail] at sound
  exact ⟨octet, rest, rfl, tail, sound⟩

/-- Octets without a flaw begin with some that spell a number. -/
theorem exists_spells_of_scan
    {octet : UInt8}
    {rest : Octets}
    {chars : List Char}
    (sound : scan none (octet :: rest) = chars.map some) :
    ∃ spelling number more, Spells spelling number ∧ octet :: rest = spelling ++ more ∧
      some (Char.ofNat number) :: scan none more = chars.map some := by
  have begins := beginning_eq octet
  split at begins
  · next small =>
      rw [scan_cons_of_character begins] at sound
      exact ⟨_, _, rest, .one small, rfl, sound⟩
  split at begins
  · rw [scan, begins] at sound
    cases chars <;> cases sound
  split at begins
  · rw [scan_cons_of_sequence begins] at sound
    obtain ⟨last, more, rfl, ends, sound⟩ := exists_of_scan_last sound
    exact ⟨_, _, more, .two (by omega) ends rfl, rfl, sound⟩
  split at begins
  · rw [scan_cons_of_sequence begins] at sound
    obtain ⟨second, behind, rfl, within, sound⟩ := exists_of_scan_more sound
    obtain ⟨goesOn, floor, ceiling⟩ := (within_iff (by decide) (by decide)).mp within
    obtain ⟨last, more, rfl, ends, sound⟩ := exists_of_scan_last sound
    exact ⟨_, _, more, .three (by omega) goesOn floor ceiling ends rfl, rfl, sound⟩
  split at begins
  · rw [scan_cons_of_sequence begins] at sound
    obtain ⟨second, behind, rfl, within, sound⟩ := exists_of_scan_more sound
    obtain ⟨goesOn, floor, ceiling⟩ := (within_iff (by decide) (by decide)).mp within
    obtain ⟨third, behind, rfl, still, sound⟩ := exists_of_scan_more sound
    obtain ⟨last, more, rfl, ends, sound⟩ := exists_of_scan_last sound
    exact ⟨_, _, more, .four (by omega) goesOn floor ceiling ⟨still.1, still.2⟩ ends rfl, rfl,
      sound⟩
  · rw [scan, begins] at sound
    cases chars <;> cases sound

/-- Octets without a flaw begin with those of their first character. -/
theorem exists_of_scan_none
    {octet : UInt8}
    {rest : Octets}
    {chars : List Char}
    (sound : scan none (octet :: rest) = chars.map some) :
    ∃ char others more, chars = char :: others ∧
      octet :: rest = String.utf8EncodeChar char ++ more ∧
      scan none more = others.map some := by
  obtain ⟨spelling, number, more, spells, whole, read⟩ := exists_spells_of_scan sound
  obtain ⟨first, others, rfl, same, left⟩ := List.map_eq_cons_iff.mp read.symm
  rw [← spells.encode_eq, ← Option.some.inj same] at whole
  exact ⟨first, others, more, rfl, whole, left.symm⟩

/-- Octets that are read without a flaw are those of the characters that are read. -/
theorem eq_encode_of_scan
    {source : Octets}
    {chars : List Char}
    (sound : scan none source = chars.map some) :
    source = chars.flatMap String.utf8EncodeChar := by
  induction chars generalizing source with
  | nil =>
      cases source with
      | nil => rfl
      | cons octet rest =>
          obtain ⟨char, others, more, whole, -⟩ := exists_of_scan_none sound
          cases whole
  | cons char others inductionHypothesis =>
      cases source with
      | nil => cases sound
      | cons octet rest =>
          obtain ⟨first, left, more, whole, spelled, sound⟩ := exists_of_scan_none sound
          obtain ⟨rfl, rfl⟩ := List.cons.inj whole
          rw [spelled, inductionHypothesis sound, List.flatMap_cons]

theorem scan_octets (chars : List Char) :
    scan none (chars.flatMap String.utf8EncodeChar) = chars.map some := by
  induction chars with
  | nil => rfl
  | cons char others inductionHypothesis =>
      rw [List.flatMap_cons, (spells_encode char).scan_append, Char.ofNat_toNat,
        inductionHypothesis, List.map_cons]

theorem mapM_id_eq_some_iff
    {read : List (Option Char)}
    {chars : List Char} :
    read.mapM id = some chars ↔ read = chars.map some := by
  induction read generalizing chars with
  | nil => cases chars <;> simp
  | cons first rest inductionHypothesis =>
      rw [List.mapM_cons]
      cases chars with
      | nil => simp [Option.bind_eq_bind, Option.bind_eq_some_iff]
      | cons char others =>
          simp [Option.bind_eq_bind, Option.bind_eq_some_iff, inductionHypothesis]

/-- Exactly the octets of a text are decoded to it. -/
theorem decode?_eq_some_iff
    {source : Octets}
    {text : String} :
    decode? source = some text ↔ source = octets text := by
  rw [decode?, Option.map_eq_some_iff]
  constructor
  · rintro ⟨chars, sound, rfl⟩
    rw [octets, String.toList_ofList]
    exact eq_encode_of_scan (mapM_id_eq_some_iff.mp sound)
  · rintro rfl
    refine ⟨text.toList, ?_, String.ofList_toList⟩
    exact mapM_id_eq_some_iff.mpr (scan_octets text.toList)

end Text
end Switchboard
