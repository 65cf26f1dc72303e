import Mathlib.Data.List.Forall2
import Mathlib.Data.Option.Basic
import Switchboard.Proofs.Toml.Scalar
import Switchboard.Proofs.Toml.Style

/-!
# Documents that have been written

A document is written line by line, each with a bare key and a value.  It is read back as the
table with these keys and values in the same order, and behind a header as a table in that
table.
-/

namespace Switchboard
namespace Toml

/-! ## Lines -/

/-- A value that is written on one line. -/
inductive Literal
  | truth (value : Bool)
  | number (value : Nat)
  | text (value : String)

namespace Literal

/-- What is written. -/
def written : Literal → List Char
  | .truth value => writeTruth value
  | .number value => writeNumber value
  | .text value => writeText value.toList

/-- What it stands for. -/
def value : Literal → Value
  | .truth value => .boolean value
  | .number value => .integer value
  | .text value => .string value

/-- What is written does not begin with a blank. -/
theorem skipSpaces_written
    (literal : Literal)
    (rest : List Char) :
    skipSpaces (' ' :: (literal.written ++ rest)) = literal.written ++ rest := by
  have begins : ∃ first more, literal.written = first :: more ∧ isSpace first = false := by
    cases literal with
    | truth value => cases value <;> exact ⟨_, _, rfl, rfl⟩
    | number value =>
        have some_digit : writeNumber value ≠ [] := Nat.toDigits_ne_nil
        obtain ⟨first, more, same⟩ := List.exists_cons_of_ne_nil some_digit
        refine ⟨first, more, same, Bool.eq_false_iff.mpr fun space => ?_⟩
        have digit := isDigit_of_mem_writeNumber (same ▸ List.mem_cons_self : first ∈ _)
        rw [isSpace, Bool.or_eq_true, beq_iff_eq, beq_iff_eq] at space
        rcases space with rfl | rfl <;> cases digit
    | text value =>
        obtain ⟨mark, more, same, quotes⟩ := head?_writeText value.toList
        refine ⟨mark, more, same, ?_⟩
        rcases quotes with rfl | rfl <;> rfl
  obtain ⟨first, more, same, unspaced⟩ := begins
  rw [same]
  change List.dropWhile isSpace (first :: (more ++ rest)) = first :: (more ++ rest)
  rw [List.dropWhile_cons_of_neg (Bool.eq_false_iff.mp unspaced)]

/-- A value is read back from the line on which it has been written. -/
theorem value_written
    (literal : Literal)
    (depth : Nat)
    (rest : List Char) :
    Toml.value depth (literal.written ++ '\n' :: rest) =
      some (literal.value, '\n' :: rest) := by
  cases literal with
  | truth value => exact value_writeTruth value depth rest
  | number value => exact value_writeNumber value depth rest
  | text value =>
      obtain ⟨mark, more, same, quotes⟩ := head?_writeText value.toList
      have read := quote_writeText value.toList rest
      rw [same, List.cons_append] at read
      rw [written, same, List.cons_append, Toml.value.eq_def]
      dsimp only
      rw [if_pos quotes, read, Option.map_some, String.ofList_toList]
      rfl

end Literal

/-- A key that needs no quotes. -/
def IsBare (key : String) : Prop :=
  key.toList ≠ [] ∧ key.toList.all isKeyChar = true

instance (key : String) : Decidable (IsBare key) :=
  inferInstanceAs (Decidable (_ ∧ _))

/-- A key with the value that is written behind it. -/
structure Line where
  /-- The key. -/
  key : String
  /-- The value. -/
  literal : Literal

namespace Line

/-- What is written. -/
def written (line : Line) : List Char :=
  writePair line.key line.literal.written

/-- The line is read as an entry of a table, wherever it stands. -/
def IsEntry
    (line : Line)
    (entry : Key × Span × Value) : Prop :=
  entry.1.text = line.key ∧ entry.2.2 = line.literal.value

end Line

/-- What is written on several lines. -/
def writeLines (lines : List Line) : List Char :=
  lines.flatMap Line.written

/-! ## Keys -/

theorem IsBare.exists_cons
    {key : String}
    (bare : IsBare key) :
    ∃ first more, key.toList = first :: more ∧ isKeyChar first = true ∧
      ∀ other, isKeyChar other = false → first ≠ other := by
  obtain ⟨first, more, same⟩ := List.exists_cons_of_ne_nil bare.1
  have keyChar : isKeyChar first = true :=
    List.all_eq_true.mp bare.2 first (same ▸ List.mem_cons_self)
  refine ⟨first, more, same, keyChar, ?_⟩
  rintro other absent rfl
  rw [keyChar] at absent
  cases absent

theorem simpleKey_bare
    {key : String}
    (bare : IsBare key)
    {next : Char}
    (ends : isKeyChar next = false)
    (rest : List Char) :
    ∃ span, simpleKey (key.toList ++ next :: rest) = some (⟨key, span⟩, next :: rest) := by
  obtain ⟨first, more, same, keyChar, differs⟩ := bare.exists_cons
  have unquoted : (first == '"' || first == '\'') = false := by
    rw [Bool.or_eq_false_iff, beq_eq_false_iff_ne, beq_eq_false_iff_ne]
    exact ⟨differs '"' (by decide), differs '\'' (by decide)⟩
  have taken : (key.toList ++ next :: rest).takeWhile isKeyChar = key.toList := by
    rw [List.takeWhile_append_of_pos (List.all_eq_true.mp bare.2),
      List.takeWhile_cons_of_neg (Bool.eq_false_iff.mp ends), List.append_nil]
  have dropped : (key.toList ++ next :: rest).dropWhile isKeyChar = next :: rest := by
    rw [List.dropWhile_append_of_pos (List.all_eq_true.mp bare.2),
      List.dropWhile_cons_of_neg (Bool.eq_false_iff.mp ends)]
  have head : (key.toList ++ next :: rest).head? = some first := by
    rw [same]
    rfl
  refine ⟨.between (key.toList ++ next :: rest) (next :: rest), ?_⟩
  rw [simpleKey, head, taken, dropped]
  simp [unquoted, keyChar]

theorem keys_bare
    {key : String}
    (bare : IsBare key)
    {next : Char}
    (ends : isKeyChar next = false)
    {rest : List Char}
    (undotted : (skipSpaces (next :: rest)).head? ≠ some '.') :
    ∃ span, keys (key.toList ++ next :: rest) = some (([], ⟨key, span⟩), next :: rest) := by
  obtain ⟨span, read⟩ := simpleKey_bare bare ends rest
  refine ⟨span, ?_⟩
  rw [keys, dottedKey, read]
  simp only [Option.bind_eq_bind, Option.bind_some]
  split
  · next same =>
      rw [same] at undotted
      exact absurd rfl undotted
  · rfl

/-- A bare key is no gap, and no header begins with it. -/
theorem IsBare.begins
    {key : String}
    (bare : IsBare key)
    (rest : List Char) :
    skipGap false (key.toList ++ rest) = some (key.toList ++ rest) ∧
      skipSpaces (key.toList ++ rest) = key.toList ++ rest ∧
      (key.toList ++ rest).head? ≠ some '[' := by
  obtain ⟨first, more, same, -, differs⟩ := bare.exists_cons
  have unspaced : isSpace first = false := by
    rw [isSpace, Bool.or_eq_false_iff, beq_eq_false_iff_ne, beq_eq_false_iff_ne]
    exact ⟨differs ' ' (by decide), differs '\t' (by decide)⟩
  rw [same, List.cons_append]
  refine ⟨?_, ?_, ?_⟩
  · rw [skipGap, if_neg (differs '\n' (by decide)), if_neg (differs '\r' (by decide)),
      if_neg Bool.false_ne_true, if_neg (Bool.eq_false_iff.mp unspaced),
      if_neg (differs '#' (by decide))]
  · exact List.dropWhile_cons_of_neg (Bool.eq_false_iff.mp unspaced)
  · exact fun begins => differs '[' (by decide) (Option.some.inj begins)

/-! ## Statements -/

theorem written_append
    (line : Line)
    (rest : List Char) :
    line.written ++ rest =
      line.key.toList ++ ' ' :: '=' :: ' ' :: (line.literal.written ++ '\n' :: rest) := by
  simp [Line.written, writePair]

/-- A line is read as its key with its value. -/
theorem statement_written
    {line : Line}
    (bare : IsBare line.key)
    (rest : List Char) :
    ∃ place span, statement (line.written ++ rest) =
      some (.pair [] ⟨line.key, place⟩ span line.literal.value, '\n' :: rest) := by
  obtain ⟨place, read⟩ := @keys_bare line.key bare ' ' (by decide)
    ('=' :: ' ' :: (line.literal.written ++ '\n' :: rest)) nofun
  have skipped : skipSpaces (' ' :: '=' :: ' ' :: (line.literal.written ++ '\n' :: rest)) =
      '=' :: ' ' :: (line.literal.written ++ '\n' :: rest) := rfl
  refine ⟨place, .between (line.literal.written ++ '\n' :: rest) ('\n' :: rest), ?_⟩
  rw [written_append, statement, if_neg (bare.begins _).2.2, pairStatement, pair, read]
  simp only [Option.bind_eq_bind, Option.bind_some, skipped, Literal.skipSpaces_written, placed,
    Literal.value_written, Option.map_some]
  rfl

/-- The rest of a document has certain statements, however many lines may still come. -/
def Holds
    (source : List Char)
    (statements : List Statement) : Prop :=
  ∀ fuel, source.length < fuel → lines fuel source = some statements

theorem holds_nil : Holds [] [] := by
  intro fuel enough
  obtain ⟨fuel, rfl⟩ := Nat.exists_eq_add_one_of_ne_zero (Nat.ne_of_gt enough)
  rfl

/-- One more statement stands in front. -/
theorem holds_cons
    {source begun rest : List Char}
    {first : Statement}
    {statements : List Statement}
    (skipped : skipGap false source = some begun)
    (read : statement begun = some (first, '\n' :: rest))
    (shorter : rest.length < source.length)
    (holds : Holds rest statements) :
    Holds source (first :: statements) := by
  intro fuel enough
  obtain ⟨fuel, rfl⟩ := Nat.exists_eq_add_one_of_ne_zero (Nat.ne_of_gt (Nat.zero_lt_of_lt enough))
  have others := holds fuel (by omega)
  have ended : endLine false ('\n' :: rest) = some rest := rfl
  rcases begun with - | ⟨char, more⟩
  · cases read
  · rw [lines, skipped]
    simp only [read, ended, others, Option.bind_eq_bind, Option.bind_some]
    rfl

/-- Statements give the keys and values of lines. -/
def Line.IsStatement
    (line : Line)
    (statement : Statement) : Prop :=
  ∃ place span, statement = .pair [] ⟨line.key, place⟩ span line.literal.value

/-- Lines with bare keys are read as such statements. -/
theorem holds_writeLines
    {written : List Line}
    (bare : ∀ line ∈ written, IsBare line.key)
    {rest : List Char}
    {others : List Statement}
    (holds : Holds rest others) :
    ∃ statements, List.Forall₂ Line.IsStatement written statements ∧
      Holds (writeLines written ++ rest) (statements ++ others) := by
  induction written with
  | nil => exact ⟨[], .nil, holds⟩
  | cons line more inductionHypothesis =>
      rw [List.forall_mem_cons] at bare
      obtain ⟨statements, states, holds⟩ := inductionHypothesis bare.2
      obtain ⟨place, span, read⟩ := statement_written bare.1 (writeLines more ++ rest)
      refine ⟨_ :: statements, .cons ⟨place, span, rfl⟩ states, ?_⟩
      rw [writeLines, List.flatMap_cons, ← writeLines, List.append_assoc]
      refine holds_cons ?_ read ?_ holds
      · rw [written_append]
        exact (bare.1.begins _).1
      · rw [written_append]
        simp only [List.length_append, List.length_cons]
        omega

/-- The header of a table as it is written, behind an empty line. -/
def writeHeader (name : String) : List Char :=
  '\n' :: '[' :: (name.toList ++ [']', '\n'])

theorem holds_writeHeader
    {name : String}
    (bare : IsBare name)
    {rest : List Char}
    {statements : List Statement}
    (holds : Holds rest statements) :
    ∃ place span, Holds (writeHeader name ++ rest)
      (.header [] ⟨name, place⟩ span :: statements) := by
  have written : writeHeader name ++ rest =
      '\n' :: '[' :: (name.toList ++ ']' :: '\n' :: rest) := by
    simp [writeHeader]
  obtain ⟨-, skipped, single⟩ := bare.begins (']' :: '\n' :: rest)
  obtain ⟨place, read⟩ := @keys_bare name bare ']' (by decide) ('\n' :: rest) nofun
  refine ⟨place, .between ('[' :: (name.toList ++ ']' :: '\n' :: rest)) ('\n' :: rest), ?_⟩
  rw [written]
  refine holds_cons rfl ?_ ?_ holds
  · change headerStatement _ = _
    rw [headerStatement, skipped, read]
    · rfl
    · rintro more same
      exact single (congrArg List.head? same)
  · simp only [List.length_cons, List.length_append]
    omega

/-! ## Tables -/

/-- The lines of a table: their keys are bare, and no two of them are equal. -/
structure AreEntries (written : List Line) : Prop where
  bare : ∀ line ∈ written, IsBare line.key
  nodup : (written.map Line.key).Nodup

theorem areEntries_of_sublist
    {written : List Line}
    {names : List String}
    (sublist : (written.map Line.key).Sublist names)
    (bare : ∀ name ∈ names, IsBare name)
    (nodup : names.Nodup) :
    AreEntries written where
  bare line member := bare line.key (sublist.subset (List.mem_map_of_mem member))
  nodup := sublist.nodup nodup

theorem find?_of_fresh
    {entries : Entries}
    {key : String}
    (fresh : ∀ entry ∈ entries, entry.1.text ≠ key) :
    Tree.find? entries key = none := by
  rw [Tree.find?, Option.map_eq_none_iff, List.find?_eq_none]
  exact fun entry member same => fresh entry member (beq_iff_eq.mp same)

theorem find?_concat
    {entries : Entries}
    {key : Key}
    (fresh : ∀ entry ∈ entries, entry.1.text ≠ key.text)
    (span : Span)
    (value : Value) :
    Tree.find? (entries ++ [(key, span, value)]) key.text = some (span, value) := by
  have absent := find?_of_fresh fresh
  rw [Tree.find?, Option.map_eq_none_iff] at absent
  rw [Tree.find?, List.find?_append, absent]
  simp

theorem replace_concat
    {entries : Entries}
    {key : Key}
    (fresh : ∀ entry ∈ entries, entry.1.text ≠ key.text)
    (span : Span)
    (old value : Value) :
    Tree.replace (entries ++ [(key, span, old)]) key.text span value =
      entries ++ [(key, span, value)] := by
  have kept : Tree.replace entries key.text span value = entries := by
    refine (List.map_congr_left fun entry member => ?_).trans (List.map_id entries)
    exact if_neg fun same => fresh entry member (beq_iff_eq.mp same)
  rw [Tree.replace, List.map_append, ← Tree.replace, kept, List.map_singleton,
    if_pos (beq_iff_eq.mpr rfl)]

namespace Tree

/-- A table takes a key that it does not have. -/
theorem insertAt_of_fresh
    {entries : Entries}
    {key : Key}
    (fresh : ∀ entry ∈ entries, entry.1.text ≠ key.text)
    (span : Span)
    (value : Value) :
    insertAt [] key span value ⟨.header, entries⟩ =
      some ⟨.header, entries ++ [(key, span, value)]⟩ := by
  have allowed : ((Form.header == .dotted) == !([] : List Key).isEmpty &&
      (find? entries key.text).isNone) = true := by
    rw [find?_of_fresh fresh]
    rfl
  rw [insertAt, alter, insert, if_pos allowed]

end Tree

namespace Draft

/-- The current table of a document, in which others have been completed: a key with its value
is put into it. -/
def IsCurrent (inDocument : Entries → Draft) : Prop :=
  ∀ entries key span value, (∀ entry ∈ entries, entry.1.text ≠ key.text) →
    (inDocument entries).add (.pair [] key span value) =
      some (inDocument (entries ++ [(key, span, value)]))

/-- Before the first header the document itself is the current table. -/
theorem isCurrent_root : IsCurrent fun entries => ⟨⟨.header, entries⟩, []⟩ := by
  intro entries key span value fresh
  rw [add, Tree.alter, Tree.insertAt_of_fresh fresh]
  rfl

/-- Behind its header a table is the current one. -/
theorem isCurrent_table
    {outer : Entries}
    {name : Key}
    (fresh : ∀ entry ∈ outer, entry.1.text ≠ name.text)
    (span : Span) :
    IsCurrent fun entries =>
      ⟨⟨.header, outer ++ [(name, span, .table .header entries)]⟩, [name]⟩ := by
  intro entries key place value absent
  rw [add, Tree.alter, find?_concat fresh]
  dsimp only [Tree.alter]
  rw [Tree.insertAt_of_fresh absent]
  have replaced := replace_concat fresh span (.table .header entries)
    (.table .header (entries ++ [(key, place, value)]))
  exact congrArg (fun root => some (Draft.mk ⟨.header, root⟩ [name])) replaced

/-- The lines of a table are put into it in order. -/
theorem foldlM_add
    {inDocument : Entries → Draft}
    (current : IsCurrent inDocument)
    {written : List Line}
    {statements : List Statement}
    (states : List.Forall₂ Line.IsStatement written statements)
    (nodup : (written.map Line.key).Nodup)
    {before : Entries}
    (fresh : ∀ line ∈ written, ∀ entry ∈ before, entry.1.text ≠ line.key) :
    ∃ entries, List.Forall₂ Line.IsEntry written entries ∧
      statements.foldlM add (inDocument before) = some (inDocument (before ++ entries)) := by
  -- Whatever has been put into the table before, the next key is fresh: it differs from the keys
  -- of the table, and from those of the lines that have just been added.
  induction states generalizing before with
  | nil => exact ⟨[], .nil, by rw [List.append_nil]; rfl⟩
  | @cons line statement more others stands _ inductionHypothesis =>
      obtain ⟨place, span, rfl⟩ := stands
      rw [List.map_cons, List.nodup_cons] at nodup
      rw [List.forall_mem_cons] at fresh
      have freshMore : ∀ other ∈ more, ∀ entry ∈ before ++
          [(⟨line.key, place⟩, span, line.literal.value)], entry.1.text ≠ other.key := by
        intro other member entry present
        rw [List.mem_append, List.mem_singleton] at present
        rcases present with earlier | rfl
        · exact fresh.2 other member entry earlier
        · intro same
          exact nodup.1 (List.mem_map.mpr ⟨other, member, same.symm⟩)
      obtain ⟨entries, describes, added⟩ := inductionHypothesis nodup.2 freshMore
      refine ⟨(⟨line.key, place⟩, span, line.literal.value) :: entries,
        .cons ⟨rfl, rfl⟩ describes, ?_⟩
      rw [List.foldlM_cons, current _ _ _ _ fresh.1, Option.bind_eq_bind, Option.bind_some, added,
        List.append_assoc]
      rfl

end Draft

/-! ## Documents -/

theorem keys_of_isEntry
    {written : List Line}
    {entries : Entries}
    (describes : List.Forall₂ Line.IsEntry written entries) :
    entries.map (·.1.text) = written.map Line.key := by
  induction describes with
  | nil => rfl
  | cons same _ inductionHypothesis =>
      rw [List.map_cons, List.map_cons, same.1, inductionHypothesis]

/-- A document that begins with a bare key does not begin with the mark of its encoding. -/
theorem dropMark_writeLines
    {line : Line}
    (bare : IsBare line.key)
    (more : List Line)
    (rest : List Char) :
    dropMark (writeLines (line :: more) ++ rest) = writeLines (line :: more) ++ rest := by
  obtain ⟨first, others, same, -, differs⟩ := bare.exists_cons
  have unmarked : first.toNat ≠ 0xFEFF := by
    intro isMark
    exact differs '\uFEFF' (by decide) (Char.toNat_inj.mp isMark)
  rw [writeLines, List.flatMap_cons, List.append_assoc, written_append, same, List.cons_append,
    dropMark, if_neg unmarked]

/-- A document without headers is read back. -/
theorem document?_writeLines
    {written : List Line}
    (areEntries : AreEntries written)
    (begins : written ≠ []) :
    ∃ entries, document? (writeLines written) = some entries ∧
      List.Forall₂ Line.IsEntry written entries := by
  obtain ⟨statements, states, holds⟩ := holds_writeLines areEntries.bare holds_nil
  obtain ⟨entries, describes, added⟩ :=
    @Draft.foldlM_add _ Draft.isCurrent_root _ _ states areEntries.nodup [] nofun
  obtain ⟨line, more, rfl⟩ := List.exists_cons_of_ne_nil begins
  have unmarked := dropMark_writeLines (areEntries.bare line List.mem_cons_self) more []
  rw [List.append_nil] at holds unmarked
  rw [List.append_nil] at holds
  refine ⟨entries, ?_, describes⟩
  rw [document?, unmarked, holds _ (Nat.lt_succ_self _), Option.bind_some, Draft.ofStatements?]
  exact congrArg (Option.map _) added

/-- A document with one header is read back: the lines behind it are in a table of their own,
and that table comes last. -/
theorem document?_writeHeader
    {outer inner : List Line}
    {name : String}
    (bare : IsBare name)
    (areEntries : AreEntries outer)
    (areInner : AreEntries inner)
    (begins : outer ≠ [])
    (absent : name ∉ outer.map Line.key) :
    ∃ entries place span children,
      document? (writeLines outer ++ (writeHeader name ++ writeLines inner)) =
        some (entries ++ [(⟨name, place⟩, span, .table .header children)]) ∧
      List.Forall₂ Line.IsEntry outer entries ∧
      List.Forall₂ Line.IsEntry inner children := by
  obtain ⟨innerStatements, innerStates, innerHolds⟩ := holds_writeLines areInner.bare holds_nil
  obtain ⟨place, span, headed⟩ := holds_writeHeader bare innerHolds
  obtain ⟨statements, states, holds⟩ := holds_writeLines areEntries.bare headed
  obtain ⟨entries, describes, added⟩ :=
    @Draft.foldlM_add _ Draft.isCurrent_root _ _ states areEntries.nodup [] nofun
  have fresh : ∀ entry ∈ entries, entry.1.text ≠ name := by
    intro entry member same
    rw [← keys_of_isEntry describes] at absent
    exact absent (List.mem_map.mpr ⟨entry, member, same⟩)
  obtain ⟨children, describesInner, addedInner⟩ :=
    @Draft.foldlM_add _ (@Draft.isCurrent_table entries ⟨name, place⟩ fresh span) _ _ innerStates
      areInner.nodup [] nofun
  obtain ⟨line, more, rfl⟩ := List.exists_cons_of_ne_nil begins
  have unmarked := dropMark_writeLines (areEntries.bare line List.mem_cons_self) more
    (writeHeader name ++ writeLines inner)
  have opened : Draft.add ⟨⟨.header, entries⟩, []⟩ (.header [] ⟨name, place⟩ span) =
      some ⟨⟨.header, entries ++ [(⟨name, place⟩, span, .table .header [])]⟩,
        [⟨name, place⟩]⟩ := by
    rw [Draft.add, Tree.alter, Tree.insertHeader, find?_of_fresh fresh]
    rfl
  rw [List.append_nil, List.append_nil] at holds
  refine ⟨entries, place, span, children, ?_, describes, describesInner⟩
  have root : statements.foldlM Draft.add Draft.empty =
      some ⟨⟨.header, entries⟩, []⟩ := added
  have table : innerStatements.foldlM Draft.add
      ⟨⟨.header, entries ++ [(⟨name, place⟩, span, .table .header [])]⟩, [⟨name, place⟩]⟩ =
      some ⟨⟨.header, entries ++ [(⟨name, place⟩, span, .table .header children)]⟩,
        [⟨name, place⟩]⟩ := addedInner
  rw [document?, unmarked, holds _ (Nat.lt_succ_self _), Option.bind_some, Draft.ofStatements?,
    List.foldlM_append, root, Option.bind_eq_bind, Option.bind_some, List.foldlM_cons, opened,
    Option.bind_eq_bind, Option.bind_some, table, Option.map_some]

end Toml
end Switchboard
