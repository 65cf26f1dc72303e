import Switchboard.Proofs.Toml.Quote

/-!
# Texts that have been written

Whatever a text holds, it is read back as it was written: the form that is chosen for it can
hold it, and what stands in front tells which form it is.
-/

namespace Switchboard
namespace Toml

/-- A text between single quotes holds nothing but plain characters, and no single quote. -/
theorem of_choose_literal
    {text : List Char}
    (chosen : Style.choose text = .literal) :
    '\'' ∉ text ∧ ∀ char ∈ text, isPlain char = true := by
  simp only [Style.choose] at chosen
  split at chosen
  · split at chosen <;> cases chosen
  next unmarked =>
    simp only [List.any_eq_true, not_exists, not_and, Bool.not_eq_true] at unmarked
    split at chosen
    · cases chosen
    split at chosen
    · next holds =>
        simp only [Bool.and_eq_true, decide_eq_true_eq, Bool.not_eq_true',
          List.contains_eq_mem, decide_eq_false_iff_not] at holds
        refine ⟨notMem_of_longestRow (Nat.le_of_eq holds.1), fun char member => ?_⟩
        have sameLine : char ≠ '\n' := by
          rintro rfl
          exact holds.2 member
        exact isPlain_of_needsMark (unmarked char member) sameLine
    · repeat' split at chosen
      all_goals cases chosen

/-- A text between three single quotes has nothing that must be marked, and no long row of
single quotes. -/
theorem of_choose_literalBlock
    {text : List Char}
    (chosen : Style.choose text = .literalBlock) :
    (∀ char ∈ text, needsMark char = false) ∧ longestRow '\'' 0 text ≤ 2 := by
  simp only [Style.choose] at chosen
  split at chosen
  · split at chosen <;> cases chosen
  next unmarked =>
    simp only [List.any_eq_true, not_exists, not_and, Bool.not_eq_true] at unmarked
    split at chosen
    · cases chosen
    split at chosen
    · cases chosen
    split at chosen
    · cases chosen
    split at chosen
    · next short => exact ⟨unmarked, short⟩
    · split at chosen <;> cases chosen

theorem quote_basic
    {body : List Char}
    (single : ∀ more, body ≠ '"' :: '"' :: more) :
    quote ('"' :: body) = basicLine .clear body := by
  rw [quote]
  exact single

theorem quote_literal
    {body : List Char}
    (single : ∀ more, body ≠ '\'' :: '\'' :: more) :
    quote ('\'' :: body) = literalLine body := by
  rw [quote]
  exact single

/-- What stands behind the opening of a block begins with a line break only if the text has
lines. -/
structure Opens (text body : List Char) : Prop where
  lined : body.head? = some '\n' → '\n' ∈ text
  unreturned : body.head? ≠ some '\r'

/-- A line break is left out at the begin of a block, and only there. -/
theorem dropBreak_opening
    {text body : List Char}
    (opens : Opens text body) :
    dropBreak ((if text.contains '\n' then ['\n'] else []) ++ body) = body := by
  split
  · rfl
  next absent =>
    rw [List.contains_eq_mem, decide_eq_true_eq] at absent
    rw [List.nil_append, dropBreak]
    · rintro rest rfl
      exact absent (opens.lined rfl)
    · rintro rest rfl
      exact opens.unreturned rfl

theorem opens_escaped
    (text rest : List Char) :
    Opens text (escaped true 0 text ++ ['"', '"', '"'] ++ rest) := by
  rcases text with - | ⟨char, more⟩
  · constructor <;> intro same <;> cases same
  rw [escaped]
  split
  · rw [if_pos ⟨rfl, by decide⟩]
    constructor <;> intro same <;> cases same
  · rw [List.append_assoc, List.append_assoc]
    rcases head?_marked true char (escaped true 0 more ++ (['"', '"', '"'] ++ rest)) with
      begins | ⟨begins, unreturned⟩
    · constructor <;> rw [begins] <;> intro same <;> cases same
    · constructor <;> rw [begins] <;> intro same
      · exact Option.some.inj same ▸ List.mem_cons_self
      · exact unreturned (Option.some.inj same)

theorem opens_literal
    {text : List Char}
    (unmarked : ∀ char ∈ text, needsMark char = false)
    (rest : List Char) :
    Opens text (text ++ ['\'', '\'', '\''] ++ rest) := by
  rcases text with - | ⟨char, more⟩
  · constructor <;> intro same <;> cases same
  · have unreturned := ne_return_of_needsMark (unmarked char List.mem_cons_self)
    exact ⟨fun same => Option.some.inj same ▸ List.mem_cons_self,
      fun same => unreturned (Option.some.inj same)⟩

/-- A text is read back from the form in which it has been written. -/
theorem quote_writeText
    (text rest : List Char) :
    quote (writeText text ++ '\n' :: rest) = some (text, '\n' :: rest) := by
  cases chosen : Style.choose text with
  | basic =>
      have form : writeText text ++ '\n' :: rest =
          '"' :: (escaped false 0 text ++ '"' :: '\n' :: rest) := by
        simp [writeText, chosen, Style.delimiter, Style.isBlock, styled]
      rw [form, quote_basic, basicLine_escaped]
      intro more same
      rcases text with - | ⟨char, others⟩
      · cases same
      · exact head?_escaped (fun _ both => Bool.false_ne_true both.1) others _
          (congrArg List.head? same)
  | literal =>
      obtain ⟨unquoted, plain⟩ := of_choose_literal chosen
      have form : writeText text ++ '\n' :: rest = '\'' :: (text ++ '\'' :: '\n' :: rest) := by
        simp [writeText, chosen, Style.delimiter, Style.isBlock, styled]
      rw [form, quote_literal, literalLine_append unquoted plain]
      intro more same
      rcases text with - | ⟨char, others⟩
      · cases same
      · exact unquoted ((List.cons.inj same).1 ▸ List.mem_cons_self)
  | basicBlock =>
      have form : writeText text ++ '\n' :: rest =
          '"' :: '"' :: '"' :: ((if text.contains '\n' then ['\n'] else []) ++
            (escaped true 0 text ++ ['"', '"', '"'] ++ '\n' :: rest)) := by
        simp [writeText, chosen, Style.delimiter, Style.isBlock, styled]
      rw [form, quote, dropBreak_opening (opens_escaped text _), basicBlock_escaped]
  | literalBlock =>
      obtain ⟨unmarked, short⟩ := of_choose_literalBlock chosen
      have form : writeText text ++ '\n' :: rest =
          '\'' :: '\'' :: '\'' :: ((if text.contains '\n' then ['\n'] else []) ++
            (text ++ ['\'', '\'', '\''] ++ '\n' :: rest)) := by
        simp [writeText, chosen, Style.delimiter, Style.isBlock, styled]
      rw [form, quote, dropBreak_opening (opens_literal unmarked _),
        literalBlock_append unmarked short]

/-- A text that has been written begins with a quote. -/
theorem head?_writeText (text : List Char) :
    ∃ mark more, writeText text = mark :: more ∧ (mark = '"' ∨ mark = '\'') := by
  cases chosen : Style.choose text <;>
    simp [writeText, chosen, Style.delimiter]

end Toml
end Switchboard
