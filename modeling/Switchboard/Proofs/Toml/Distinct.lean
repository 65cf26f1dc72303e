import Mathlib.Data.List.Nodup
import Mathlib.Data.Option.Basic
import Mathlib.Tactic.SplitIfs
import Switchboard.Toml.Reader

/-!
# Keys of tables

In a document that is well formed no table has a key twice, however deep the table lies.  A key
is put into a table only if the table does not have it, and where the value of a key is changed
the keys stay as they are.
-/

namespace Switchboard
namespace Toml

/-- No table in a value has a key twice. -/
inductive Value.IsTidy : Value → Prop
  | string (text : String) : IsTidy (.string text)
  | integer (value : Int) : IsTidy (.integer value)
  | float (number : Float) : IsTidy (.float number)
  | boolean (value : Bool) : IsTidy (.boolean value)
  | dateTime : IsTidy .dateTime
  | array {ofTables : Bool} {items : List (Span × Value)}
      (each : ∀ item ∈ items, item.2.IsTidy) :
      IsTidy (.array ofTables items)
  | table {form : Form} {entries : Entries}
      (distinct : (entries.map (·.1.text)).Nodup)
      (each : ∀ entry ∈ entries, entry.2.2.IsTidy) :
      IsTidy (.table form entries)

/-- A table has no key twice, and neither has any table in it. -/
structure AreTidy (entries : Entries) : Prop where
  distinct : (entries.map (·.1.text)).Nodup
  each : ∀ entry ∈ entries, entry.2.2.IsTidy

/-- A table is tidy when its entries are. -/
theorem isTidy_table_iff
    {form : Form}
    {entries : Entries} :
    Value.IsTidy (.table form entries) ↔ AreTidy entries := by
  constructor
  · rintro (_ | _ | _ | _ | _ | _ | ⟨distinct, each⟩)
    exact ⟨distinct, each⟩
  · exact fun tidy => .table tidy.distinct tidy.each

/-- An array is tidy when each of its items is. -/
theorem isTidy_array_iff
    {ofTables : Bool}
    {items : List (Span × Value)} :
    Value.IsTidy (.array ofTables items) ↔ ∀ item ∈ items, item.2.IsTidy := by
  constructor
  · rintro (_ | _ | _ | _ | _ | each)
    exact each
  · exact .array

theorem areTidy_nil : AreTidy [] :=
  ⟨List.nodup_nil, nofun⟩

namespace Tree

/-- The first entry of a name is the one that is found. -/
theorem find?_cons
    (key : Key)
    (span : Span)
    (value : Value)
    (rest : Entries)
    (name : String) :
    find? ((key, span, value) :: rest) name =
      if key.text = name then some (span, value) else find? rest name := by
  by_cases same : key.text = name <;> simp [find?, same]

/-- Nothing is found under a name that no entry has. -/
theorem find?_eq_none_iff
    {entries : Entries}
    {key : String} :
    find? entries key = none ↔ ∀ entry ∈ entries, entry.1.text ≠ key := by
  simp [find?, List.find?_eq_none]

/-- What is found stands among the entries, under the name it was looked up by. -/
theorem exists_mem_of_find?
    {entries : Entries}
    {key : String}
    {span : Span}
    {value : Value}
    (found : find? entries key = some (span, value)) :
    ∃ place, (⟨key, place⟩, span, value) ∈ entries := by
  obtain ⟨⟨⟨text, place⟩, other⟩, found, rfl⟩ := Option.map_eq_some_iff.mp found
  have same := List.find?_some found
  obtain rfl : text = key := beq_iff_eq.mp same
  exact ⟨place, List.mem_of_find?_eq_some found⟩

end Tree

namespace AreTidy

variable {entries : Entries} {key : Key} {name : String} {span : Span} {value : Value}

theorem of_find?
    (tidy : AreTidy entries)
    (found : Tree.find? entries name = some (span, value)) :
    value.IsTidy := by
  obtain ⟨place, member⟩ := Tree.exists_mem_of_find? found
  exact tidy.each _ member

/-- In a table without repeated keys what is found is what is there. -/
theorem find?_eq_some_iff (tidy : AreTidy entries) :
    Tree.find? entries name = some (span, value) ↔
      ∃ place, (⟨name, place⟩, span, value) ∈ entries := by
  refine ⟨Tree.exists_mem_of_find?, ?_⟩
  rintro ⟨place, member⟩
  cases found : Tree.find? entries name with
  | none => exact absurd rfl (Tree.find?_eq_none_iff.mp found _ member)
  | some other =>
      obtain ⟨otherPlace, otherMember⟩ := Tree.exists_mem_of_find? found
      have same := List.inj_on_of_nodup_map tidy.distinct member otherMember rfl
      exact congrArg some (Prod.mk.inj same).2.symm

/-- A key that is not yet there is put in. -/
theorem concat
    (tidy : AreTidy entries)
    (fresh : Tree.find? entries key.text = none)
    (valueTidy : value.IsTidy) :
    AreTidy (entries ++ [(key, span, value)]) where
  distinct := by
    rw [List.map_append, List.map_singleton, List.nodup_append]
    refine ⟨tidy.distinct, List.nodup_singleton _, ?_⟩
    intro text member other single same
    obtain ⟨entry, present, rfl⟩ := List.mem_map.mp member
    rw [List.mem_singleton] at single
    exact Tree.find?_eq_none_iff.mp fresh entry present (same.trans single)
  each := by
    intro entry member
    rcases List.mem_append.mp member with present | single
    · exact tidy.each entry present
    · rw [List.mem_singleton.mp single]
      exact valueTidy

/-- The value of a key is replaced; the keys stay. -/
theorem replace
    (tidy : AreTidy entries)
    (name : String)
    (span : Span)
    (valueTidy : value.IsTidy) :
    AreTidy (Tree.replace entries name span value) where
  distinct := by
    have keys : (Tree.replace entries name span value).map (·.1.text) =
        entries.map (·.1.text) := by
      rw [Tree.replace, List.map_map]
      refine List.map_congr_left fun entry _ => ?_
      change (if entry.1.text == name then (entry.1, span, value) else entry).1.text = _
      split <;> rfl
    exact keys ▸ tidy.distinct
  each := by
    intro entry member
    obtain ⟨old, present, rfl⟩ := List.mem_map.mp member
    split
    · exact valueTidy
    · exact tidy.each old present

end AreTidy

/-! ## Building -/

/-- Where there is a change of a tree, it keeps the keys of tables distinct. -/
def KeepsTidy (change : Tree → Option Tree) : Prop :=
  ∀ tree after, AreTidy tree.entries → change tree = some after → AreTidy after.entries

namespace Tree

/-- The last table of an array has distinct keys, and the others stay as they are. -/
theorem isTidy_of_last?
    {items others : List (Span × Value)}
    {span : Span}
    {last : Tree}
    (tidy : ∀ item ∈ items, item.2.IsTidy)
    (splits : last? items = some (others, span, last)) :
    (∀ item ∈ others, item.2.IsTidy) ∧ AreTidy last.entries := by
  rw [last?] at splits
  split at splits
  · next place form entries ends =>
      cases splits
      exact ⟨fun item member => tidy item (List.dropLast_subset _ member),
        isTidy_table_iff.mp (tidy _ (List.mem_of_getLast? ends))⟩
  · cases splits

/-- What keeps the keys of one table distinct does so at the end of any way. -/
theorem keepsTidy_alter
    {change : Tree → Option Tree}
    (keeps : KeepsTidy change)
    (withDots : Bool)
    (way : List Key) :
    KeepsTidy (alter withDots change way) := by
  induction way with
  | nil => exact keeps
  | cons key way inductionHypothesis =>
      intro tree after tidy alters
      rw [alter] at alters
      split at alters
      · next fresh =>
          obtain ⟨child, changed, made⟩ := Option.bind_eq_some_iff.mp alters
          cases made
          have childTidy := inductionHypothesis _ _ areTidy_nil changed
          exact tidy.concat fresh (isTidy_table_iff.mpr childTidy)
      · next span form entries found =>
          obtain ⟨-, -, alters⟩ := Option.bind_eq_some_iff.mp alters
          obtain ⟨child, changed, made⟩ := Option.bind_eq_some_iff.mp alters
          cases made
          have entriesTidy := isTidy_table_iff.mp (tidy.of_find? found)
          have childTidy := inductionHypothesis ⟨form, entries⟩ _ entriesTidy changed
          exact tidy.replace _ _ (isTidy_table_iff.mpr childTidy)
      · next span items found =>
          obtain ⟨⟨others, place, last⟩, splits, alters⟩ := Option.bind_eq_some_iff.mp alters
          obtain ⟨child, changed, made⟩ := Option.bind_eq_some_iff.mp alters
          cases made
          obtain ⟨othersTidy, lastTidy⟩ :=
            isTidy_of_last? (isTidy_array_iff.mp (tidy.of_find? found)) splits
          have childTidy := inductionHypothesis _ _ lastTidy changed
          refine tidy.replace _ _ (.array fun item member => ?_)
          rcases List.mem_append.mp member with present | single
          · exact othersTidy item present
          · rw [List.mem_singleton.mp single]
            exact isTidy_table_iff.mpr childTidy
      · cases alters

/-- An entry is only added under a name that is free, so the names stay distinct. -/
theorem keepsTidy_insert
    {value : Value}
    (valueTidy : value.IsTidy)
    (withDots : Bool)
    (key : Key)
    (span : Span) :
    KeepsTidy (insert withDots key span value) := by
  intro tree after tidy inserts
  rw [insert] at inserts
  split at inserts
  · next allowed =>
      cases inserts
      rw [Bool.and_eq_true, Option.isNone_iff_eq_none] at allowed
      exact tidy.concat allowed.2 valueTidy
  · cases inserts

/-- Tables that are made on the way to a key are tidy as well. -/
theorem keepsTidy_insertAt
    {value : Value}
    (valueTidy : value.IsTidy)
    (path : List Key)
    (key : Key)
    (span : Span) :
    KeepsTidy (insertAt path key span value) :=
  keepsTidy_alter (keepsTidy_insert valueTidy _ key span) true path

theorem keepsTidy_insertHeader
    (key : Key)
    (span : Span) :
    KeepsTidy (insertHeader key span) := by
  intro tree after tidy inserts
  rw [insertHeader] at inserts
  split at inserts
  · next fresh =>
      cases inserts
      exact tidy.concat fresh (isTidy_table_iff.mpr areTidy_nil)
  · next place entries found =>
      cases inserts
      exact tidy.replace _ _ (isTidy_table_iff.mpr (isTidy_table_iff.mp (tidy.of_find? found)))
  · cases inserts

theorem keepsTidy_insertElement
    (key : Key)
    (span : Span) :
    KeepsTidy (insertElement key span) := by
  have element : Value.IsTidy (.table .header []) := isTidy_table_iff.mpr areTidy_nil
  intro tree after tidy inserts
  rw [insertElement] at inserts
  split at inserts
  · next fresh =>
      cases inserts
      exact tidy.concat fresh (.array (by simpa using element))
  · next place items found =>
      cases inserts
      have itemsTidy := isTidy_array_iff.mp (tidy.of_find? found)
      refine tidy.replace _ _ (.array fun item member => ?_)
      rcases List.mem_append.mp member with present | single
      · exact itemsTidy item present
      · rw [List.mem_singleton.mp single]
        exact element
  · cases inserts

end Tree

/-! ## Reading -/

/-- What a reader takes from the front of a text has a property. -/
def Yields
    (reader : Reader α)
    (property : α → Prop) : Prop :=
  ∀ chars result rest, reader chars = some (result, rest) → property result

theorem yields_placed
    {reader : Reader Value}
    (yields : Yields reader Value.IsTidy) :
    Yields (placed reader) fun item => item.2.IsTidy := by
  intro chars item rest reads
  obtain ⟨⟨value, more⟩, read, made⟩ := Option.map_eq_some_iff.mp reads
  cases made
  exact yields _ _ _ read

theorem yields_pair
    {element : Reader (Span × Value)}
    (yields : Yields element fun item => item.2.IsTidy) :
    Yields (pair element) fun result => result.2.2.IsTidy := by
  intro chars result rest reads
  rw [pair] at reads
  obtain ⟨⟨keys, more⟩, -, reads⟩ := Option.bind_eq_some_iff.mp reads
  dsimp only at reads
  split at reads
  · obtain ⟨⟨item, others⟩, read, made⟩ := Option.bind_eq_some_iff.mp reads
    cases made
    exact yields _ _ _ read
  · cases reads

theorem yields_arrayItems
    {element : Reader (Span × Value)}
    (yields : Yields element fun item => item.2.IsTidy)
    (fuel : Nat) :
    Yields (arrayItems element fuel) fun items => ∀ item ∈ items, item.2.IsTidy := by
  induction fuel with
  | zero => exact nofun
  | succ fuel inductionHypothesis =>
      intro chars items rest reads
      rw [arrayItems] at reads
      obtain ⟨begun, -, reads⟩ := Option.bind_eq_some_iff.mp reads
      split at reads
      · cases reads
        exact nofun
      · obtain ⟨⟨first, more⟩, read, reads⟩ := Option.bind_eq_some_iff.mp reads
        have firstTidy := yields _ _ _ read
        obtain ⟨further, -, reads⟩ := Option.bind_eq_some_iff.mp reads
        split at reads
        · obtain ⟨⟨others, last⟩, read, made⟩ := Option.bind_eq_some_iff.mp reads
          cases made
          exact List.forall_mem_cons.mpr ⟨firstTidy, inductionHypothesis _ _ _ read⟩
        · cases reads
          exact List.forall_mem_singleton.mpr firstTidy
        · cases reads

/-- An inline table is filled pair by pair, and each keeps it tidy. -/
theorem areTidy_of_inlinePairs
    {element : Reader (Span × Value)}
    (yields : Yields element fun item => item.2.IsTidy)
    (fuel : Nat)
    {tree : Tree}
    (tidy : AreTidy tree.entries) :
    Yields (inlinePairs element fuel tree) fun after => AreTidy after.entries := by
  induction fuel generalizing tree with
  | zero => exact nofun
  | succ fuel inductionHypothesis =>
      intro chars after rest reads
      rw [inlinePairs] at reads
      obtain ⟨begun, -, reads⟩ := Option.bind_eq_some_iff.mp reads
      split at reads
      · cases reads
        exact tidy
      · obtain ⟨⟨⟨⟨path, key⟩, span, value⟩, more⟩, read, reads⟩ :=
          Option.bind_eq_some_iff.mp reads
        have valueTidy := yields_pair yields _ _ _ read
        obtain ⟨grown, inserted, reads⟩ := Option.bind_eq_some_iff.mp reads
        have grownTidy :=
          Tree.keepsTidy_insertAt valueTidy path key span tree grown tidy inserted
        obtain ⟨further, -, reads⟩ := Option.bind_eq_some_iff.mp reads
        split at reads
        · exact inductionHypothesis grownTidy _ _ _ reads
        · cases reads
          exact grownTidy
        · cases reads

/-- A word stands for a value in which there are no others. -/
theorem isTidy_of_wordValue?
    {text : List Char}
    {value : Value}
    (stands : wordValue? text = some value) :
    value.IsTidy := by
  rw [wordValue?] at stands
  split at stands
  · cases stands
    exact .boolean _
  split at stands
  · cases stands
    exact .boolean _
  split at stands
  · cases stands
    exact .integer _
  split at stands
  · cases stands
    exact .float _
  split at stands
  · cases stands
    exact .dateTime
  · cases stands

theorem yields_scalar : Yields scalar Value.IsTidy := by
  intro chars value rest reads
  rw [scalar] at reads
  dsimp only at reads
  split at reads
  · split at reads
    · split at reads
      · cases reads
        exact .dateTime
      · cases reads
    · cases reads
      exact .dateTime
  · obtain ⟨value, stands, made⟩ := Option.map_eq_some_iff.mp reads
    cases made
    exact isTidy_of_wordValue? stands

/-- A value is a text, an array or a table with values of less depth, or a word. -/
theorem value_cases
    {depth : Nat}
    {chars rest : List Char}
    {result : Value}
    (reads : value depth chars = some (result, rest)) :
    (∃ text, result = .string text) ∨
      (∃ inner fuel begun items, depth = inner + 1 ∧ result = .array false items ∧
        arrayItems (placed (value inner)) fuel begun = some (items, rest)) ∨
      (∃ inner fuel begun tree, depth = inner + 1 ∧ result = .table tree.form tree.entries ∧
        inlinePairs (placed (value inner)) fuel (.empty .inline) begun = some (tree, rest)) ∨
      scalar chars = some (result, rest) := by
  rw [value.eq_def] at reads
  rcases chars with _ | ⟨first, more⟩
  · cases reads
  · dsimp only at reads
    split_ifs at reads
    · obtain ⟨⟨text, behind⟩, -, made⟩ := Option.map_eq_some_iff.mp reads
      cases made
      exact Or.inl ⟨_, rfl⟩
    · split at reads
      · cases reads
      · obtain ⟨⟨items, behind⟩, read, made⟩ := Option.map_eq_some_iff.mp reads
        cases made
        exact Or.inr (Or.inl ⟨_, _, _, _, rfl, rfl, read⟩)
    · split at reads
      · cases reads
      · obtain ⟨⟨tree, behind⟩, read, made⟩ := Option.map_eq_some_iff.mp reads
        cases made
        exact Or.inr (Or.inr (Or.inl ⟨_, _, _, _, rfl, rfl, read⟩))
    · exact Or.inr (Or.inr (Or.inr reads))

/-- Every value that is read is tidy, however deep it is nested. -/
theorem yields_value (depth : Nat) : Yields (value depth) Value.IsTidy := by
  induction depth using Nat.strongRecOn with
  | ind depth inductionHypothesis =>
      intro chars result rest reads
      rcases value_cases reads with ⟨text, rfl⟩ | ⟨inner, fuel, begun, items, rfl, rfl, read⟩ |
        ⟨inner, fuel, begun, tree, rfl, rfl, read⟩ | read
      · exact .string text
      · have elements := yields_placed (inductionHypothesis inner (Nat.lt_succ_self inner))
        exact .array (yields_arrayItems elements fuel _ _ _ read)
      · have elements := yields_placed (inductionHypothesis inner (Nat.lt_succ_self inner))
        exact isTidy_table_iff.mpr (areTidy_of_inlinePairs elements fuel areTidy_nil _ _ _ read)
      · exact yields_scalar _ _ _ read

/-! ## Documents -/

/-- The value of a statement has no table with a key twice. -/
def Statement.IsTidy : Statement → Prop
  | .pair _ _ _ value => value.IsTidy
  | .header _ _ _ | .element _ _ _ => True

/-- Every line that is read holds a tidy value, if it holds one. -/
theorem yields_statement : Yields statement Statement.IsTidy := by
  intro chars result rest reads
  rw [statement] at reads
  split_ifs at reads
  · rw [headerStatement.eq_def] at reads
    split at reads
    · obtain ⟨⟨⟨path, key⟩, more⟩, -, reads⟩ := Option.bind_eq_some_iff.mp reads
      dsimp only at reads
      split at reads
      · cases reads
        trivial
      · cases reads
    · obtain ⟨⟨⟨path, key⟩, more⟩, -, reads⟩ := Option.bind_eq_some_iff.mp reads
      dsimp only at reads
      split at reads
      · cases reads
        trivial
      · cases reads
    · cases reads
  · obtain ⟨⟨⟨⟨path, key⟩, span, item⟩, more⟩, read, made⟩ := Option.bind_eq_some_iff.mp reads
    cases made
    exact yields_pair (yields_placed (yields_value maxDepth)) _ _ _ read

theorem isTidy_of_lines
    {fuel : Nat}
    {chars : List Char}
    {statements : List Statement}
    (reads : lines fuel chars = some statements) :
    ∀ statement ∈ statements, statement.IsTidy := by
  induction fuel generalizing chars statements with
  | zero => cases reads
  | succ fuel inductionHypothesis =>
      rw [lines] at reads
      split at reads
      · cases reads
      · cases reads
        exact nofun
      · obtain ⟨⟨first, more⟩, read, reads⟩ := Option.bind_eq_some_iff.mp reads
        obtain ⟨next, -, reads⟩ := Option.bind_eq_some_iff.mp reads
        obtain ⟨others, readOthers, made⟩ := Option.bind_eq_some_iff.mp reads
        cases made
        exact List.forall_mem_cons.mpr
          ⟨yields_statement _ _ _ read, inductionHypothesis readOthers⟩

namespace Draft

/-- A line that is taken into a document leaves it tidy. -/
theorem areTidy_add
    {draft after : Draft}
    {statement : Statement}
    (statementTidy : statement.IsTidy)
    (tidy : AreTidy draft.root.entries)
    (adds : draft.add statement = some after) :
    AreTidy after.root.entries := by
  cases statement with
  | pair path key span value =>
      obtain ⟨root, alters, rfl⟩ := Option.map_eq_some_iff.mp adds
      have keeps := Tree.keepsTidy_insertAt statementTidy path key span
      exact Tree.keepsTidy_alter keeps _ _ _ _ tidy alters
  | header path key span =>
      obtain ⟨root, alters, rfl⟩ := Option.map_eq_some_iff.mp adds
      exact Tree.keepsTidy_alter (Tree.keepsTidy_insertHeader key span) _ _ _ _ tidy alters
  | element path key span =>
      obtain ⟨root, alters, rfl⟩ := Option.map_eq_some_iff.mp adds
      exact Tree.keepsTidy_alter (Tree.keepsTidy_insertElement key span) _ _ _ _ tidy alters

/-- Lines that are taken in one after the other leave a document tidy. -/
theorem areTidy_foldlM
    {statements : List Statement}
    {draft after : Draft}
    (statementsTidy : ∀ statement ∈ statements, statement.IsTidy)
    (tidy : AreTidy draft.root.entries)
    (adds : statements.foldlM add draft = some after) :
    AreTidy after.root.entries := by
  induction statements generalizing draft with
  | nil =>
      cases adds
      exact tidy
  | cons first others inductionHypothesis =>
      rw [List.forall_mem_cons] at statementsTidy
      obtain ⟨grown, added, adds⟩ := Option.bind_eq_some_iff.mp adds
      exact inductionHypothesis statementsTidy.2 (areTidy_add statementsTidy.1 tidy added) adds

end Draft

/-- In a well-formed document no table has a key twice. -/
theorem areTidy_of_document?
    {source : List Char}
    {entries : Entries}
    (describes : document? source = some entries) :
    AreTidy entries := by
  obtain ⟨statements, read, builds⟩ := Option.bind_eq_some_iff.mp describes
  obtain ⟨draft, added, rfl⟩ := Option.map_eq_some_iff.mp builds
  exact Draft.areTidy_foldlM (isTidy_of_lines read) areTidy_nil added

end Toml
end Switchboard
