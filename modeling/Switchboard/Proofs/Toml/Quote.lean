import Mathlib.Data.List.Basic
import Switchboard.Toml.Quote
import Switchboard.Toml.Writer

/-!
# Quoted texts that have been written

Each of the four forms in which a text can be written is read back by its own reader.  Only in
the two that have lines can a row of quotes at the end of the text meet the delimiter.
-/

namespace Switchboard
namespace Toml

/-! ## Single characters -/

/-- A hexadecimal digit that is written is read as its value. -/
theorem hexValue?_hexDigit :
    ∀ digit < 16, hexValue? (hexDigit digit) = some digit := by
  decide

theorem charOf?_toNat (char : Char) : charOf? char.toNat = some char := by
  have valid : char.toNat.isValidChar := char.valid
  rw [charOf?, dif_pos valid]
  rfl

/-- Only characters of one octet have to be marked. -/
theorem toNat_lt_of_needsMark
    {char : Char}
    (marks : needsMark char = true) :
    char.toNat < 0x80 := by
  simp only [needsMark, Bool.or_eq_true, Bool.and_eq_true, decide_eq_true_eq, beq_iff_eq] at marks
  omega

/-- What need not be marked and does not end a line may stand as it is. -/
theorem isPlain_of_needsMark
    {char : Char}
    (unmarked : needsMark char = false)
    (sameLine : char ≠ '\n') :
    isPlain char = true := by
  simp only [needsMark, Bool.or_eq_false_iff, Bool.and_eq_false_iff, decide_eq_false_iff_not,
    bne_eq_false_iff_eq, beq_eq_false_iff_ne] at unmarked
  simp only [isPlain, Bool.or_eq_true, beq_iff_eq, Bool.and_eq_true, decide_eq_true_eq,
    bne_iff_ne]
  rcases unmarked with ⟨(printable | tab) | lineBreak, notDelete⟩
  · exact Or.inr ⟨Nat.not_lt.mp printable, notDelete⟩
  · exact Or.inl tab
  · exact absurd lineBreak sameLine

theorem ne_return_of_needsMark
    {char : Char}
    (unmarked : needsMark char = false) :
    char ≠ '\r' := by
  rintro rfl
  cases unmarked

/-- One more hexadecimal digit shifts the number that has been read by four bits, and the last one
ends the mark. -/
theorem next?_hexDigit
    (digits value : Nat)
    {digit : Nat}
    (small : digit < 16) :
    Mark.next? digits value (hexDigit digit) =
      if digits ≤ 1 then
        (charOf? (value * 16 + digit)).map fun complete => (.clear, some complete)
      else some (.code (digits - 1) (value * 16 + digit), none) := by
  rw [Mark.next?, hexValue?_hexDigit digit small]

/-- The number of a character that has been read digit by digit. -/
theorem charOf?_digits
    {char : Char}
    (small : char.toNat < 0x10000) :
    charOf? ((((0 * 16 + char.toNat / 4096 % 16) * 16 + char.toNat / 256 % 16) * 16 +
      char.toNat / 16 % 16) * 16 + char.toNat % 16) = some char := by
  have same : (((0 * 16 + char.toNat / 4096 % 16) * 16 + char.toNat / 256 % 16) * 16 +
      char.toNat / 16 % 16) * 16 + char.toNat % 16 = char.toNat := by
    omega
  rw [same, charOf?_toNat]

/-! ## Texts in one line -/

/-- A backslash and its letter stand for one character in a line. -/
theorem basicLine_letter
    {letter char : Char}
    (stands : Mark.opening? letter = some (.clear, some char))
    (rest : List Char) :
    basicLine .clear ('\\' :: letter :: rest) = push char (basicLine .clear rest) := by
  rw [basicLine, if_neg (by decide), if_pos rfl, basicLine, stands]
  rfl

/-- A character that is written by its number is read back in a line. -/
theorem basicLine_numbered
    {char : Char}
    (small : char.toNat < 0x10000)
    (rest : List Char) :
    basicLine .clear (numbered char ++ rest) = push char (basicLine .clear rest) := by
  have digit : ∀ number, number % 16 < 16 := fun number => Nat.mod_lt _ (by decide)
  rw [numbered]
  simp only [List.cons_append, List.nil_append]
  rw [basicLine, if_neg (by decide), if_pos rfl, basicLine]
  change basicLine (.code 4 0) _ = _
  rw [basicLine, next?_hexDigit _ _ (digit _)]
  change basicLine (.code 3 _) _ = _
  rw [basicLine, next?_hexDigit _ _ (digit _)]
  change basicLine (.code 2 _) _ = _
  rw [basicLine, next?_hexDigit _ _ (digit _)]
  change basicLine (.code 1 _) _ = _
  rw [basicLine, next?_hexDigit _ _ (digit _), if_pos (Nat.le_refl 1), charOf?_digits small]
  rfl

/-- A character that needs no mark stands for itself in a line. -/
theorem basicLine_plain
    {char : Char}
    (unquoted : char ≠ '"')
    (unmarked : char ≠ '\\')
    (plain : isPlain char = true)
    (rest : List Char) :
    basicLine .clear (char :: rest) = push char (basicLine .clear rest) := by
  rw [basicLine, if_neg unquoted, if_neg unmarked, if_pos plain]

/-- In one line a character is read from its marked form. -/
theorem basicLine_marked
    {char : Char}
    (unquoted : char ≠ '"')
    (rest : List Char) :
    basicLine .clear (marked false char ++ rest) = push char (basicLine .clear rest) := by
  unfold marked
  split
  · next same => exact same ▸ basicLine_letter rfl rest
  split
  · next same => exact same ▸ basicLine_letter rfl rest
  split
  · next same =>
      rw [if_neg Bool.false_ne_true]
      exact same ▸ basicLine_letter rfl rest
  split
  · next same => exact same ▸ basicLine_letter rfl rest
  split
  · next same => exact same ▸ basicLine_letter rfl rest
  split
  · next same =>
      subst same
      exact basicLine_letter rfl rest
  split
  · next marks =>
      exact basicLine_numbered (Nat.lt_trans (toNat_lt_of_needsMark marks) (by decide)) rest
  · next lineBreak _ _ backslash unmarked =>
      have plain := isPlain_of_needsMark (Bool.eq_false_iff.mpr unmarked) lineBreak
      exact basicLine_plain unquoted backslash plain rest

/-- A text between double quotes is read back. -/
theorem basicLine_escaped
    (text rest : List Char) :
    basicLine .clear (escaped false 0 text ++ '"' :: rest) = some (text, rest) := by
  induction text with
  | nil => rfl
  | cons char more inductionHypothesis =>
      rw [escaped]
      split
      · next same =>
          rw [if_neg (by simp), List.cons_append, List.cons_append, basicLine_letter rfl,
            inductionHypothesis, same]
          rfl
      · next other =>
          rw [List.append_assoc, basicLine_marked other, inductionHypothesis]
          rfl

/-- A text between single quotes is read back. -/
theorem literalLine_append
    {text : List Char}
    (unquoted : '\'' ∉ text)
    (plain : ∀ char ∈ text, isPlain char = true)
    (rest : List Char) :
    literalLine (text ++ '\'' :: rest) = some (text, rest) := by
  induction text with
  | nil => rfl
  | cons char more inductionHypothesis =>
      rw [List.mem_cons, not_or] at unquoted
      rw [List.forall_mem_cons] at plain
      rw [List.cons_append, literalLine, if_neg (Ne.symm unquoted.1), if_pos plain.1,
        inductionHypothesis unquoted.2 plain.2]
      rfl

/-! ## Texts with lines -/

/-- What a reader of a block does at a character that no backslash marks. -/
theorem basicBlock_off
    (char : Char)
    (rest : List Char) :
    basicBlock (.plain .off) (char :: rest) =
      if char = '"' ∧ ['"', '"'].isPrefixOf rest then
        some (closingQuotes '"' (rest.drop 2))
      else if char = '\\' then basicBlock (.marked .begun) rest
      else if char = '\r' then
        if beginsBreak rest then push char (basicBlock (.plain .off) rest) else none
      else if char = '\n' ∨ isPlain char then
        push char (basicBlock (.plain .off) rest)
      else none := by
  simp only [basicBlock, ne_eq, not_true_eq_false, false_and, if_false, reduceCtorEq]

theorem basicBlock_backslash (rest : List Char) :
    basicBlock (.plain .off) ('\\' :: rest) = basicBlock (.marked .begun) rest := by
  rw [basicBlock_off, if_neg (by simp), if_pos rfl]

/-- Within a numbered mark a reader of a block takes the next digit, as a reader of a line does.
-/
theorem basicBlock_code
    (digits value : Nat)
    (char : Char)
    (rest : List Char) :
    basicBlock (.marked (.code digits value)) (char :: rest) =
      match Mark.next? digits value char with
      | some (mark, complete?) => push? complete? (basicBlock (.ofMark mark) rest)
      | none => none :=
  rfl

theorem basicBlock_begun
    {letter : Char}
    (unspaced : isSpace letter = false)
    (sameLine : letter ≠ '\n')
    (unreturned : letter ≠ '\r')
    (rest : List Char) :
    basicBlock (.marked .begun) (letter :: rest) =
      match Mark.opening? letter with
      | some (mark, complete?) => push? complete? (basicBlock (.ofMark mark) rest)
      | none => none := by
  rw [basicBlock, if_neg (Bool.eq_false_iff.mp unspaced), if_neg sameLine]
  · exact if_neg unreturned
  · intro digits value same
    cases same

/-- A backslash and its letter stand for one character in a block. -/
theorem basicBlock_letter
    {letter char : Char}
    (stands : Mark.opening? letter = some (.clear, some char))
    (rest : List Char) :
    basicBlock (.plain .off) ('\\' :: letter :: rest) =
      push char (basicBlock (.plain .off) rest) := by
  have unspaced : isSpace letter = false := by
    rw [← Bool.not_eq_true, isSpace, Bool.or_eq_true, beq_iff_eq, beq_iff_eq]
    rintro (rfl | rfl) <;> cases stands
  have sameLine : letter ≠ '\n' := by
    rintro rfl
    cases stands
  have unreturned : letter ≠ '\r' := by
    rintro rfl
    cases stands
  rw [basicBlock_backslash, basicBlock_begun unspaced sameLine unreturned, stands]
  rfl

/-- A character that is written by its number is read back in a block. -/
theorem basicBlock_numbered
    {char : Char}
    (small : char.toNat < 0x10000)
    (rest : List Char) :
    basicBlock (.plain .off) (numbered char ++ rest) =
      push char (basicBlock (.plain .off) rest) := by
  have digit : ∀ number, number % 16 < 16 := fun number => Nat.mod_lt _ (by decide)
  rw [numbered]
  simp only [List.cons_append, List.nil_append]
  rw [basicBlock_backslash, basicBlock_begun (by decide) (by decide) (by decide)]
  change basicBlock (.marked (.code 4 0)) _ = _
  rw [basicBlock_code, next?_hexDigit _ _ (digit _)]
  change basicBlock (.marked (.code 3 _)) _ = _
  rw [basicBlock_code, next?_hexDigit _ _ (digit _)]
  change basicBlock (.marked (.code 2 _)) _ = _
  rw [basicBlock_code, next?_hexDigit _ _ (digit _)]
  change basicBlock (.marked (.code 1 _)) _ = _
  rw [basicBlock_code, next?_hexDigit _ _ (digit _), if_pos (Nat.le_refl 1),
    charOf?_digits small]
  rfl

/-- A character that needs no mark stands for itself in a block, and so does a line break. -/
theorem basicBlock_plain
    {char : Char}
    (unquoted : char ≠ '"')
    (unmarked : char ≠ '\\')
    (unreturned : char ≠ '\r')
    (plain : char = '\n' ∨ isPlain char = true)
    (rest : List Char) :
    basicBlock (.plain .off) (char :: rest) = push char (basicBlock (.plain .off) rest) := by
  rw [basicBlock_off, if_neg (fun quote => unquoted quote.1), if_neg unmarked,
    if_neg unreturned, if_pos plain]

/-- In a block a character is read from its marked form. -/
theorem basicBlock_marked
    {char : Char}
    (unquoted : char ≠ '"')
    (rest : List Char) :
    basicBlock (.plain .off) (marked true char ++ rest) =
      push char (basicBlock (.plain .off) rest) := by
  unfold marked
  split
  · next same => exact same ▸ basicBlock_letter rfl rest
  split
  · next same => exact same ▸ basicBlock_letter rfl rest
  split
  · next same =>
      subst same
      exact basicBlock_plain (by decide) (by decide) (by decide) (Or.inl rfl) rest
  split
  · next same => exact same ▸ basicBlock_letter rfl rest
  split
  · next same => exact same ▸ basicBlock_letter rfl rest
  split
  · next same =>
      subst same
      exact basicBlock_letter rfl rest
  split
  · next marks =>
      exact basicBlock_numbered (Nat.lt_trans (toNat_lt_of_needsMark marks) (by decide)) rest
  · next lineBreak _ unreturned backslash unmarked =>
      have plain := isPlain_of_needsMark (Bool.eq_false_iff.mpr unmarked) lineBreak
      exact basicBlock_plain unquoted backslash unreturned (Or.inr plain) rest

/-! ## Quotes at the end of a text -/

/-- Quotes in front of a line break go on with a text that has ended, if they are two at
most. -/
theorem closingQuotes_replicate
    {mark : Char}
    (sameLine : mark ≠ '\n')
    {count : Nat}
    (few : count ≤ 2)
    (rest : List Char) :
    closingQuotes mark (List.replicate count mark ++ '\n' :: rest) =
      (List.replicate count mark, '\n' :: rest) := by
  have taken : (List.replicate count mark ++ '\n' :: rest).takeWhile (· == mark) =
      List.replicate count mark := by
    rw [List.takeWhile_append_of_pos (by simp), List.takeWhile_cons_of_neg, List.append_nil]
    exact fun same => sameLine (eq_of_beq same).symm
  have dropped : (List.replicate count mark ++ '\n' :: rest).drop count = '\n' :: rest :=
    List.drop_left' List.length_replicate
  rw [closingQuotes, taken, List.length_replicate, Nat.min_eq_right few, dropped]

/-- The row of quotes in front counts. -/
theorem le_longestRow
    (mark : Char)
    (row : Nat)
    (text : List Char) :
    row ≤ longestRow mark row text := by
  induction text generalizing row with
  | nil => exact Nat.le_refl row
  | cons char more inductionHypothesis =>
      rw [longestRow]
      split
      · exact Nat.le_of_succ_le (inductionHypothesis (row + 1))
      · exact Nat.le_max_left _ _

/-- With more quotes in front the longest row of a text is no shorter. -/
theorem longestRow_mono
    (mark : Char)
    {low high : Nat}
    (ordered : low ≤ high)
    (text : List Char) :
    longestRow mark low text ≤ longestRow mark high text := by
  induction text generalizing low high with
  | nil => exact ordered
  | cons char more inductionHypothesis =>
      rw [longestRow, longestRow]
      split
      · exact inductionHypothesis (Nat.succ_le_succ ordered)
      · exact Nat.max_le.mpr ⟨Nat.le_trans ordered (Nat.le_max_left _ _), Nat.le_max_right _ _⟩

theorem longestRow_of_ne
    {mark char : Char}
    (different : char ≠ mark)
    {row bound : Nat}
    {text : List Char}
    (short : longestRow mark row (char :: text) ≤ bound) :
    longestRow mark 0 text ≤ bound := by
  rw [longestRow, if_neg different] at short
  exact Nat.le_trans (Nat.le_max_right _ _) short

theorem longestRow_self
    (mark : Char)
    (row : Nat)
    (text : List Char) :
    longestRow mark row (mark :: text) = longestRow mark (row + 1) text := by
  rw [longestRow, if_pos rfl]

/-- A text whose longest row of a mark is empty does not hold the mark. -/
theorem notMem_of_longestRow
    {mark : Char}
    {text : List Char}
    (absent : longestRow mark 0 text ≤ 0) :
    mark ∉ text := by
  induction text with
  | nil => exact List.not_mem_nil
  | cons char more inductionHypothesis =>
      have different : char ≠ mark := by
        rintro rfl
        rw [longestRow_self] at absent
        exact absurd (Nat.le_trans (le_longestRow _ _ _) absent) (by decide)
      rw [List.mem_cons, not_or]
      exact ⟨Ne.symm different, inductionHypothesis (longestRow_of_ne different absent)⟩

/-- Behind the first of at least three quotes the delimiter is found, and the quotes that are
too many belong to the text. -/
theorem closes
    {mark : Char}
    (sameLine : mark ≠ '\n')
    {count : Nat}
    (few : count ≤ 2)
    (rest : List Char) :
    [mark, mark].isPrefixOf (List.replicate (count + 2) mark ++ '\n' :: rest) = true ∧
      closingQuotes mark ((List.replicate (count + 2) mark ++ '\n' :: rest).drop 2) =
        (List.replicate count mark, '\n' :: rest) := by
  refine ⟨by simp [List.replicate_succ, List.isPrefixOf], ?_⟩
  simp only [List.replicate_succ, List.cons_append, List.drop_succ_cons, List.drop_zero]
  exact closingQuotes_replicate sameLine few rest

theorem replicate_append_three
    (mark : Char)
    (count : Nat)
    (rest : List Char) :
    List.replicate count mark ++ [mark, mark, mark] ++ rest =
      mark :: (List.replicate (count + 2) mark ++ rest) := by
  have same : List.replicate count mark ++ [mark, mark, mark] =
      mark :: List.replicate (count + 2) mark := by
    rw [← List.replicate_succ]
    exact (List.replicate_add count 3 mark).symm
  rw [same, List.cons_append]

/-! ## Blocks -/

/-- Two quotes are in front only if the first two characters are such. -/
theorem isPrefixOf_eq_false
    {mark : Char}
    {text : List Char}
    (apart : text.head? ≠ some mark ∨ text.tail.head? ≠ some mark) :
    [mark, mark].isPrefixOf text = false := by
  rcases text with - | ⟨first, - | ⟨second, more⟩⟩
  · rfl
  · exact Bool.and_false _
  · change (mark == first && (mark == second && true)) = false
    rw [Bool.and_true, Bool.and_eq_false_iff, beq_eq_false_iff_ne, beq_eq_false_iff_ne]
    exact apart.imp (fun other same => other (congrArg some same.symm))
      (fun other same => other (congrArg some same.symm))

/-- A row of quotes that is short enough and goes on with something else does not meet the
delimiter. -/
theorem isPrefixOf_of_longestRow
    {mark : Char}
    {text : List Char}
    (short : longestRow mark 1 text ≤ 2)
    (other : ∃ char ∈ text, char ≠ mark)
    (rest : List Char) :
    [mark, mark].isPrefixOf (text ++ rest) = false := by
  obtain ⟨char, member, different⟩ := other
  apply isPrefixOf_eq_false
  rcases text with - | ⟨first, - | ⟨second, more⟩⟩
  · cases member
  · rw [List.mem_singleton] at member
    subst member
    exact Or.inl fun same => different (Option.some.inj same)
  · by_contra both
    rw [not_or, not_not, not_not] at both
    obtain rfl := Option.some.inj both.1
    obtain rfl := Option.some.inj both.2
    rw [longestRow_self, longestRow_self] at short
    exact absurd (Nat.le_trans (le_longestRow _ _ _) short) (by decide)

theorem longestRow_replicate
    (mark : Char)
    (row count : Nat) :
    longestRow mark row (List.replicate count mark) = row + count := by
  induction count generalizing row with
  | zero => rfl
  | succ count inductionHypothesis =>
      rw [List.replicate_succ, longestRow_self, inductionHypothesis]
      omega

/-- Up to two single quotes at the end of a block belong to its text. -/
theorem literalBlock_replicate
    {count : Nat}
    (few : count ≤ 2)
    (rest : List Char) :
    literalBlock (List.replicate count '\'' ++ ['\'', '\'', '\''] ++ '\n' :: rest) =
      some (List.replicate count '\'', '\n' :: rest) := by
  obtain ⟨begins, goesOn⟩ := @closes '\'' (by decide) count few rest
  rw [replicate_append_three, literalBlock, if_pos ⟨rfl, begins⟩, goesOn]

/-- A text between three single quotes is read back. -/
theorem literalBlock_append
    {text : List Char}
    {row : Nat}
    (unmarked : ∀ char ∈ text, needsMark char = false)
    (short : longestRow '\'' row text ≤ 2)
    (rest : List Char) :
    literalBlock (text ++ ['\'', '\'', '\''] ++ '\n' :: rest) = some (text, '\n' :: rest) := by
  -- The row counts the single quotes right before the text: with those that follow there are never
  -- more than two, and the delimiter is met only where the text ends with them.
  induction text generalizing row with
  | nil => exact @literalBlock_replicate 0 (by decide) rest
  | cons char more inductionHypothesis =>
      obtain ⟨unmarkedFirst, unmarkedMore⟩ := List.forall_mem_cons.mp unmarked
      by_cases quoted : char = '\''
      · subst quoted
        rw [longestRow_self] at short
        by_cases ends : ∀ other ∈ more, other = '\''
        · -- The text ends with this row.
          obtain ⟨count, rfl⟩ : ∃ count, more = List.replicate count '\'' :=
            ⟨more.length, List.eq_replicate_iff.mpr ⟨rfl, ends⟩⟩
          rw [longestRow_replicate] at short
          exact @literalBlock_replicate (count + 1) (by omega) rest
        · simp only [not_forall, exists_prop] at ends
          have shortHere : longestRow '\'' 1 more ≤ 2 :=
            Nat.le_trans (longestRow_mono _ (Nat.le_add_left 1 row) more) short
          have goesOn := isPrefixOf_of_longestRow shortHere ends
            (['\'', '\'', '\''] ++ '\n' :: rest)
          rw [List.cons_append, List.cons_append, literalBlock, if_neg, if_neg (by decide),
            if_pos (by decide), inductionHypothesis unmarkedMore short]
          · rfl
          · rw [List.append_assoc, goesOn]
            exact fun both => Bool.false_ne_true both.2
      · have unreturned := ne_return_of_needsMark unmarkedFirst
        have plain : char = '\n' ∨ isPlain char = true := by
          by_cases lineBreak : char = '\n'
          · exact Or.inl lineBreak
          · exact Or.inr (isPlain_of_needsMark unmarkedFirst lineBreak)
        rw [List.cons_append, List.cons_append, literalBlock, if_neg (fun both => quoted both.1),
          if_neg unreturned, if_pos plain,
          inductionHypothesis unmarkedMore (longestRow_of_ne quoted short)]
        rfl

/-- Up to two double quotes in a row stand unmarked in a block. -/
theorem escaped_replicate
    {row count : Nat}
    (few : row + count ≤ 2) :
    escaped true row (List.replicate count '"') = List.replicate count '"' := by
  induction count generalizing row with
  | zero => rfl
  | succ count inductionHypothesis =>
      rw [List.replicate_succ, escaped, if_pos rfl, if_pos ⟨rfl, by omega⟩,
        inductionHypothesis (by omega)]

/-- The marked form of a character begins with a backslash, or it is the character. -/
theorem head?_marked
    (inBlock : Bool)
    (char : Char)
    (rest : List Char) :
    (marked inBlock char ++ rest).head? = some '\\' ∨
      (marked inBlock char ++ rest).head? = some char ∧ char ≠ '\r' := by
  unfold marked
  split
  · exact Or.inl rfl
  split
  · exact Or.inl rfl
  split
  · next lineBreak =>
      subst lineBreak
      cases inBlock
      · exact Or.inl rfl
      · exact Or.inr ⟨rfl, by decide⟩
  split
  · exact Or.inl rfl
  split
  · exact Or.inl rfl
  split
  · exact Or.inl rfl
  split
  · exact Or.inl rfl
  · next unreturned _ _ => exact Or.inr ⟨rfl, unreturned⟩

/-- What goes on with a character that is no quote, or with one that is marked, does not begin
with a quote. -/
theorem head?_escaped
    {inBlock : Bool}
    {char : Char}
    {row : Nat}
    (interrupts : char = '"' → ¬(inBlock = true ∧ row < 2))
    (more rest : List Char) :
    (escaped inBlock row (char :: more) ++ rest).head? ≠ some '"' := by
  rw [escaped]
  split
  · next quoted =>
      rw [if_neg (interrupts quoted)]
      nofun
  · next unquoted =>
      rw [List.append_assoc]
      rcases head?_marked inBlock char (escaped inBlock 0 more ++ rest) with begins | begins
      · rw [begins]
        decide
      · rw [begins.1]
        exact fun same => unquoted (Option.some.inj same)

/-- Up to two double quotes at the end of a block belong to its text. -/
theorem basicBlock_replicate
    {count : Nat}
    (few : count ≤ 2)
    (rest : List Char) :
    basicBlock (.plain .off) (List.replicate count '"' ++ ['"', '"', '"'] ++ '\n' :: rest) =
      some (List.replicate count '"', '\n' :: rest) := by
  obtain ⟨begins, goesOn⟩ := @closes '"' (by decide) count few rest
  rw [replicate_append_three, basicBlock_off, if_pos ⟨rfl, begins⟩, goesOn]

/-- A quote that stands as it is does not meet the delimiter, unless the text ends with the
row. -/
theorem isPrefixOf_of_escaped
    {text : List Char}
    {row : Nat}
    (goesOn : ∀ count, row + count ≤ 2 → text ≠ List.replicate count '"')
    (raw : 0 < row ∧ row ≤ 2)
    (rest : List Char) :
    ['"', '"'].isPrefixOf (escaped true row text ++ rest) = false := by
  apply isPrefixOf_eq_false
  rcases text with - | ⟨first, more⟩
  · exact absurd rfl (goesOn 0 raw.2)
  by_cases interrupts : first = '"' → ¬(true = true ∧ row < 2)
  · exact Or.inl (head?_escaped interrupts more rest)
  obtain ⟨rfl, full⟩ := Classical.not_imp.mp interrupts
  have one := (not_not.mp full).2
  rw [escaped, if_pos rfl, if_pos ⟨rfl, one⟩]
  rcases more with - | ⟨second, others⟩
  · exact absurd rfl (goesOn 1 (by omega))
  · exact Or.inr (head?_escaped (fun _ both => absurd both.2 (by omega)) others rest)

/-- A text between three double quotes is read back. -/
theorem basicBlock_escaped
    (row : Nat)
    (text rest : List Char) :
    basicBlock (.plain .off) (escaped true row text ++ ['"', '"', '"'] ++ '\n' :: rest) =
      some (text, '\n' :: rest) := by
  -- The row counts the quotes right before the text.  At most two of them stand as they are, so
  -- three in a row begin only where the delimiter does.
  induction text generalizing row with
  | nil => exact @basicBlock_replicate 0 (by decide) rest
  | cons char more inductionHypothesis =>
      by_cases quoted : char = '"'
      · subst quoted
        by_cases raw : row < 2
        · by_cases ends : ∃ count, row + 1 + count ≤ 2 ∧ more = List.replicate count '"'
          · -- The text ends with this row.
            obtain ⟨count, few, rfl⟩ := ends
            rw [← List.replicate_succ, escaped_replicate (by omega)]
            exact basicBlock_replicate (by omega) rest
          · have goesOn : ∀ count, row + 1 + count ≤ 2 → more ≠ List.replicate count '"' :=
              fun count few same => ends ⟨count, few, same⟩
            rw [escaped, if_pos rfl, if_pos ⟨rfl, raw⟩, List.cons_append, List.cons_append,
              basicBlock_off, if_neg, if_neg (by decide), if_neg (by decide),
              if_pos (Or.inr (by decide)), inductionHypothesis (row + 1)]
            · rfl
            · rw [List.append_assoc, isPrefixOf_of_escaped goesOn ⟨Nat.succ_pos row, raw⟩]
              exact fun both => Bool.false_ne_true both.2
        · rw [escaped, if_pos rfl, if_neg (fun both => raw both.2)]
          exact (basicBlock_letter rfl _).trans
            (congrArg (push '"') (inductionHypothesis 0))
      · rw [escaped, if_neg quoted, List.append_assoc, List.append_assoc,
          basicBlock_marked quoted, ← List.append_assoc, inductionHypothesis 0]
        rfl

end Toml
end Switchboard
