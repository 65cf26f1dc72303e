import Mathlib.Data.List.Basic
import Switchboard.Toml.Reader
import Switchboard.Toml.Writer

/-!
# Numbers and truth values that have been written

A number is written with its decimal digits.  They are a word of their own in front of a line
break, and no other kind of word.
-/

namespace Switchboard

namespace Text

/-- Without a separator there is one field. -/
theorem fields_of_notMem
    {separator : Char}
    {chars : List Char}
    (undivided : separator ∉ chars) :
    fields separator chars = [chars] := by
  induction chars with
  | nil => rfl
  | cons char rest inductionHypothesis =>
      rw [List.mem_cons, not_or] at undivided
      rw [fields, inductionHypothesis undivided.2]
      exact if_neg (Ne.symm undivided.1)

end Text

namespace Toml

/-! ## Words in front of a line break -/

/-- A word that ends at a line break is read as the value it stands for. -/
theorem scalar_word
    {word : List Char}
    (wordChars : ∀ char ∈ word, isWordChar char = true)
    (rest : List Char) :
    scalar (word ++ '\n' :: rest) =
      (wordValue? word).map fun value => (value, '\n' :: rest) := by
  have taken : (word ++ '\n' :: rest).takeWhile isWordChar = word := by
    rw [List.takeWhile_append_of_pos wordChars]
    exact List.append_nil word
  have dropped : (word ++ '\n' :: rest).dropWhile isWordChar = '\n' :: rest := by
    rw [List.dropWhile_append_of_pos wordChars]
    rfl
  rw [scalar, taken, dropped]
  split
  · next same => cases same
  · rfl

/-- A word in front of a line break is read as what it stands for. -/
theorem value_word
    {first : Char}
    {word : List Char}
    (wordChars : ∀ char ∈ first :: word, isWordChar char = true)
    (depth : Nat)
    (rest : List Char) :
    value depth (first :: word ++ '\n' :: rest) =
      (wordValue? (first :: word)).map fun value => (value, '\n' :: rest) := by
  have begins := wordChars first List.mem_cons_self
  have unquoted : ¬(first = '"' ∨ first = '\'') := by
    rintro (rfl | rfl) <;> cases begins
  have unbracketed : first ≠ '[' := by
    rintro rfl
    cases begins
  have unbraced : first ≠ '\x7b' := by
    rintro rfl
    cases begins
  rw [List.cons_append, value.eq_def]
  dsimp only
  rw [if_neg unquoted, if_neg unbracketed, if_neg unbraced, ← List.cons_append,
    scalar_word wordChars]

/-- A truth value is read back. -/
theorem value_writeTruth
    (truth : Bool)
    (depth : Nat)
    (rest : List Char) :
    value depth (writeTruth truth ++ '\n' :: rest) = some (.boolean truth, '\n' :: rest) := by
  cases truth
  · exact @value_word 'f' ['a', 'l', 's', 'e'] (List.all_eq_true.mp rfl) depth rest
  · exact @value_word 't' ['r', 'u', 'e'] (List.all_eq_true.mp rfl) depth rest

/-! ## Decimal digits -/

/-- A number is written in decimal digits. -/
theorem isDigit_of_mem_writeNumber
    {number : Nat}
    {char : Char}
    (member : char ∈ writeNumber number) :
    char.isDigit = true :=
  Nat.isDigit_of_mem_toDigits (by decide) (by decide) member

theorem notMem_writeNumber
    {char : Char}
    (other : char.isDigit = false)
    (number : Nat) :
    char ∉ writeNumber number := by
  intro member
  rw [isDigit_of_mem_writeNumber member] at other
  cases other

theorem isWordChar_of_isDigit
    {char : Char}
    (digit : char.isDigit = true) :
    isWordChar char = true := by
  simp [isWordChar, Char.isAlphanum, digit]

theorem grouped?_writeNumber (number : Nat) :
    grouped? Char.isDigit (writeNumber number) = some (writeNumber number) := by
  have some_digit : (writeNumber number).isEmpty = false :=
    List.isEmpty_eq_false_iff.mpr Nat.toDigits_ne_nil
  have digits : (writeNumber number).all Char.isDigit = true :=
    List.all_eq_true.mpr fun char member => isDigit_of_mem_writeNumber member
  have undivided : '_' ∉ writeNumber number := notMem_writeNumber (by decide) number
  rw [grouped?, Text.fields_of_notMem undivided]
  simp [some_digit, digits]

/-- The digits of a number stand for it. -/
theorem numberIn_writeNumber (number : Nat) :
    numberIn 10 (writeNumber number) = number := by
  have same : ∀ (digits : List Char) (read : Nat), (∀ char ∈ digits, char.isDigit = true) →
      digits.foldl (fun value digit => value * 10 + digitValue digit) read =
        Nat.ofDigitChars 10 digits read := by
    intro digits
    induction digits with
    | nil => exact fun read _ => (Nat.ofDigitChars_nil).symm
    | cons char more inductionHypothesis =>
        intro read numeric
        rw [List.forall_mem_cons] at numeric
        rw [List.foldl_cons, inductionHypothesis _ numeric.2, Nat.ofDigitChars_cons, digitValue,
          if_pos numeric.1, Nat.mul_comm]
  rw [numberIn, same _ 0 fun char member => isDigit_of_mem_writeNumber member, writeNumber,
    Nat.ofDigitChars_ten_toDigits]

/-- A positive number has no zero in front. -/
theorem head?_writeNumber
    {number : Nat}
    (positive : 0 < number) :
    (writeNumber number).head? ≠ some '0' := by
  have nonzero : ∀ digit < 10, 0 < digit → some digit.digitChar ≠ some '0' := by decide
  induction number using Nat.strongRecOn with
  | ind number inductionHypothesis =>
      rw [writeNumber, Nat.toDigits_eq_if (by decide)]
      split
      next single => exact nonzero number single positive
      next several =>
        have shorter := inductionHypothesis (number / 10) (by omega) (by omega)
        have written : Nat.toDigits 10 (number / 10) ≠ [] := Nat.toDigits_ne_nil
        rwa [List.head?_append_of_ne_nil _ written]

/-- A number is written without a zero in front of its digits. -/
theorem isTight_writeNumber (number : Nat) :
    isTight (writeNumber number) = true := by
  rw [isTight, Bool.or_eq_true, bne_iff_ne]
  rcases Nat.eq_zero_or_pos number with rfl | positive
  · exact Or.inl rfl
  · exact Or.inr (head?_writeNumber positive)

/-- Digits carry no sign. -/
theorem splitSign_of_isDigit
    {chars : List Char}
    (digits : ∀ char ∈ chars, char.isDigit = true) :
    splitSign chars = (false, chars) := by
  unfold splitSign
  split
  · cases digits '-' List.mem_cons_self
  · cases digits '+' List.mem_cons_self
  · rfl

/-- What is made of digits alone is a decimal number. -/
theorem integer?_of_isDigit
    {chars : List Char}
    (digits : ∀ char ∈ chars, char.isDigit = true) :
    integer? chars = decimalInteger? chars := by
  unfold integer?
  split
  · cases digits 'x' (List.mem_cons_of_mem _ List.mem_cons_self)
  · cases digits 'o' (List.mem_cons_of_mem _ List.mem_cons_self)
  · cases digits 'b' (List.mem_cons_of_mem _ List.mem_cons_self)
  · rfl

theorem integer?_writeNumber (number : Nat) :
    integer? (writeNumber number) = some number := by
  have digits : ∀ char ∈ writeNumber number, char.isDigit = true :=
    fun char member => isDigit_of_mem_writeNumber member
  rw [integer?_of_isDigit digits, decimalInteger?, splitSign_of_isDigit digits]
  simp only [grouped?_writeNumber, Option.filter_some, isTight_writeNumber, if_true,
    Option.map_some, numberIn_writeNumber]
  rfl

/-- A number is read back as it was written. -/
theorem wordValue?_writeNumber (number : Nat) :
    wordValue? (writeNumber number) = some (.integer number) := by
  have numeric : ∀ char ∈ writeNumber number, char.isDigit = true :=
    fun char member => isDigit_of_mem_writeNumber member
  have notTrue : writeNumber number ≠ "true".toList := by
    intro same
    exact notMem_writeNumber (by decide) number (same ▸ by decide : 't' ∈ writeNumber number)
  have notFalse : writeNumber number ≠ "false".toList := by
    intro same
    exact notMem_writeNumber (by decide) number (same ▸ by decide : 'f' ∈ writeNumber number)
  rw [wordValue?, if_neg notTrue, if_neg notFalse, integer?_writeNumber]
  rfl

/-- A number is read back. -/
theorem value_writeNumber
    (number depth : Nat)
    (rest : List Char) :
    value depth (writeNumber number ++ '\n' :: rest) =
      some (.integer number, '\n' :: rest) := by
  have some_digit : writeNumber number ≠ [] := Nat.toDigits_ne_nil
  obtain ⟨first, more, written⟩ := List.exists_cons_of_ne_nil some_digit
  have wordChars : ∀ char ∈ first :: more, isWordChar char = true := by
    intro char member
    rw [← written] at member
    exact isWordChar_of_isDigit (isDigit_of_mem_writeNumber member)
  rw [written, value_word wordChars, ← written, wordValue?_writeNumber]
  rfl

end Toml
end Switchboard
