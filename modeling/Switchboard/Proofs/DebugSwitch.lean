import Switchboard.DebugSwitch

/-!
# What switches debug mode

A variable switches debug mode exactly when it is the word `on`, in any mixture of capitals
and small letters, with blanks around it or without.
-/

namespace Switchboard
namespace Text

/-- Trimming takes blanks from both ends. -/
theorem exists_trim (chars : List Char) :
    ∃ before after, chars = before ++ trim chars ++ after ∧
      before.all isBlank = true ∧ after.all isBlank = true := by
  refine ⟨chars.takeWhile isBlank,
    ((chars.dropWhile isBlank).reverse.takeWhile isBlank).reverse, ?_, ?_, ?_⟩
  · rw [trim, List.append_assoc, ← List.reverse_append, List.takeWhile_append_dropWhile,
      List.reverse_reverse, List.takeWhile_append_dropWhile]
  · exact List.all_takeWhile
  · rw [List.all_reverse]
    exact List.all_takeWhile

/-- Trimming leaves what begins and ends with characters that are not blank. -/
theorem trim_append
    {before middle after : List Char}
    {first last : Char}
    (beforeBlank : before.all isBlank = true)
    (afterBlank : after.all isBlank = true)
    (begins : middle.head? = some first)
    (ends : middle.getLast? = some last)
    (firstVisible : isBlank first = false)
    (lastVisible : isBlank last = false) :
    trim (before ++ middle ++ after) = middle := by
  have dropFront : ∀ {front rest : List Char} {char : Char}, front.all isBlank = true →
      rest.head? = some char → isBlank char = false →
        (front ++ rest).dropWhile isBlank = rest := by
    intro front rest char blank starts visible
    rw [List.dropWhile_append_of_pos (by simpa using blank)]
    cases rest with
    | nil => rfl
    | cons head tail =>
        rw [List.head?_cons, Option.some.injEq] at starts
        rw [List.dropWhile_cons_of_neg]
        rw [starts, visible]
        exact Bool.false_ne_true
  have front : (before ++ middle ++ after).dropWhile isBlank = middle ++ after := by
    rw [List.append_assoc]
    apply dropFront beforeBlank _ firstVisible
    rw [List.head?_append, begins]
    rfl
  rw [trim, front, List.reverse_append]
  rw [dropFront (by simpa using afterBlank) (by rw [List.head?_reverse]; exact ends)
    lastVisible, List.reverse_reverse]

/-- Only a small letter and its capital become the small letter. -/
theorem lowerAscii_eq_iff
    {small capital : Char}
    (isCapital : 'A' ≤ capital ∧ capital ≤ 'Z')
    (pair : small.toNat = capital.toNat + 32)
    (char : Char) :
    lowerAscii char = small ↔ char = small ∨ char = capital := by
  have bounds : ∀ letter : Char, 'A' ≤ letter ∧ letter ≤ 'Z' ↔
      65 ≤ letter.toNat ∧ letter.toNat ≤ 90 := fun _ => Iff.rfl
  rw [lowerAscii]
  split
  · next range =>
      rw [bounds] at isCapital range
      have valid : (char.toNat + 32).isValidChar := Or.inl (by omega)
      have code : (Char.ofNat (char.toNat + 32)).toNat = char.toNat + 32 := by
        rw [Char.ofNat, dif_pos valid]
        rfl
      rw [← Char.toNat_inj, ← Char.toNat_inj, ← Char.toNat_inj, code]
      omega
  · next outside =>
      refine ⟨Or.inl, ?_⟩
      rintro (same | rfl)
      · exact same
      · exact absurd isCapital outside

end Text

namespace DebugSwitch

/-- A text is the word `on` in any mixture of capitals and small letters, with nothing but
blanks around it. -/
def IsOnWord (value : String) : Prop :=
  ∃ before first second after,
    value.toList = before ++ [first, second] ++ after ∧
      (∀ char ∈ before ++ after, Text.isBlank char = true) ∧
      first ∈ ['o', 'O'] ∧ second ∈ ['n', 'N']

theorem saysOn_iff (value : String) :
    saysOn value = true ↔ IsOnWord value := by
  have small : ∀ char, Text.lowerAscii char = 'o' ↔ char = 'o' ∨ char = 'O' :=
    Text.lowerAscii_eq_iff (by decide) rfl
  have next : ∀ char, Text.lowerAscii char = 'n' ↔ char = 'n' ∨ char = 'N' :=
    Text.lowerAscii_eq_iff (by decide) rfl
  have word : saysOn value = true ↔ ∃ first second,
      Text.trim value.toList = [first, second] ∧ first ∈ ['o', 'O'] ∧
        second ∈ ['n', 'N'] := by
    rw [saysOn, beq_iff_eq]
    constructor
    · intro lowered
      obtain ⟨first, rest, trimmed, isFirst, others⟩ := List.map_eq_cons_iff.mp lowered
      obtain ⟨second, rfl, isSecond⟩ := List.map_eq_singleton_iff.mp others
      refine ⟨first, second, trimmed, ?_, ?_⟩
      · simpa using (small first).mp isFirst
      · simpa using (next second).mp isSecond
    · rintro ⟨first, second, trimmed, isFirst, isSecond⟩
      have lowerFirst := (small first).mpr (by simpa using isFirst)
      have lowerSecond := (next second).mpr (by simpa using isSecond)
      rw [trimmed, List.map_cons, List.map_cons, List.map_nil, lowerFirst, lowerSecond]
  rw [word]
  constructor
  · rintro ⟨first, second, trimmed, isFirst, isSecond⟩
    obtain ⟨before, after, whole, beforeBlank, afterBlank⟩ := Text.exists_trim value.toList
    rw [trimmed] at whole
    refine ⟨before, first, second, after, whole, ?_, isFirst, isSecond⟩
    intro char member
    rcases List.mem_append.mp member with inFront | behind
    · exact List.all_eq_true.mp beforeBlank char inFront
    · exact List.all_eq_true.mp afterBlank char behind
  · rintro ⟨before, first, second, after, whole, blank, isFirst, isSecond⟩
    refine ⟨first, second, ?_, isFirst, isSecond⟩
    have visible : ∀ char ∈ ['o', 'O', 'n', 'N'], Text.isBlank char = false := by
      simp [Text.isBlank]
    rw [whole]
    apply Text.trim_append _ _ rfl rfl
    · apply visible
      exact List.mem_append_left ['n', 'N'] isFirst
    · apply visible
      exact List.mem_append_right ['o', 'O'] isSecond
    · exact List.all_eq_true.mpr fun char member => blank char (List.mem_append_left _ member)
    · exact List.all_eq_true.mpr fun char member => blank char (List.mem_append_right _ member)

/-- Debug mode is on because of the flag or because of the usual variable. -/
theorem isOn_ofFlag
    (flag : Bool)
    (environment : Environment) :
    (ofFlag flag).isOn environment = true ↔
      flag = true ∨
        ∃ value, environment.get? debugVariable = some value ∧ IsOnWord value := by
  simp only [isOn, ofFlag, Bool.or_eq_true, Option.any_eq_true, saysOn_iff]

end DebugSwitch
end Switchboard
