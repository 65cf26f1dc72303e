import Switchboard.Toml.Value

/-!
# Building tables

Keys and headers are put into tables one after the other.  A key has one value, a
table has one header, and a table between braces is complete; whatever would change
that is refused.
-/

namespace Switchboard
namespace Toml

/-- A table, by its form and its entries. -/
structure Tree where
  /-- How it came about. -/
  form : Form
  /-- Its entries, in the order in which they were put in. -/
  entries : Entries

namespace Tree

/-- A table without entries. -/
def empty (form : Form) : Tree :=
  ⟨form, []⟩

/-- The value of a key. -/
def find? (entries : Entries) (key : String) : Option (Span × Value) :=
  (entries.find? (·.1.text == key)).map (·.2)

/-- The entries in which a key that has a value has another one. -/
def replace (entries : Entries) (key : String) (span : Span) (value : Value) : Entries :=
  entries.map fun entry =>
    if entry.1.text == key then (entry.1, span, value) else entry

/-- A table of an array that can be extended: the last one. -/
def last? (items : List (Span × Value)) : Option (List (Span × Value) × Span × Tree) :=
  match items.getLast? with
  | some (span, .table form entries) => some (items.dropLast, span, ⟨form, entries⟩)
  | _ => none

/-- Whether a table may be entered on the way to a key: one between braces never, and
one with a header only on the way to another header. -/
def mayEnter (form : Form) (withDots : Bool) : Bool :=
  match form with
  | .inline => false
  | .header => !withDots
  | .implicit | .dotted => true

/-- The form of a table that is named on the way to a key. -/
def wayForm (withDots : Bool) : Form :=
  if withDots then .dotted else .implicit

/-- A table in which the table at the end of a way is changed; tables on the way that
are missing are made. -/
def alter
    (withDots : Bool)
    (change : Tree → Option Tree) : List Key → Tree → Option Tree
  | [], tree => change tree
  | key :: way, tree =>
      match find? tree.entries key.text with
      | none => do
          let child ← alter withDots change way (.empty (wayForm withDots))
          return { tree with
            entries := tree.entries ++ [(key, key.span, .table child.form child.entries)] }
      | some (span, .table form entries) => do
          guard (mayEnter form withDots)
          let child ← alter withDots change way ⟨form, entries⟩
          return { tree with
            entries := replace tree.entries key.text span (.table child.form child.entries) }
      | some (span, .array true items) => do
          let (others, place, last) ← last? items
          let child ← alter withDots change way last
          return { tree with
            entries :=
              replace tree.entries key.text span
                (.array true (others ++ [(place, .table child.form child.entries)])) }
      | some _ => none

/-- A table with one more key.  Keys with dots belong into tables that only such keys
have made. -/
def insert
    (withDots : Bool)
    (key : Key)
    (span : Span)
    (value : Value)
    (tree : Tree) : Option Tree :=
  if (tree.form == .dotted) == withDots && (find? tree.entries key.text).isNone then
    some { tree with entries := tree.entries ++ [(key, span, value)] }
  else
    none

/-- A table with the value of a key that may have dots. -/
def insertAt
    (path : List Key)
    (key : Key)
    (span : Span)
    (value : Value)
    (tree : Tree) : Option Tree :=
  alter true (insert (!path.isEmpty) key span value) path tree

/-- A table with one more table, whose header is written. -/
def insertHeader (key : Key) (span : Span) (tree : Tree) : Option Tree :=
  match find? tree.entries key.text with
  | none =>
      some { tree with entries := tree.entries ++ [(key, span, .table .header [])] }
  | some (_, .table .implicit entries) =>
      some { tree with entries := replace tree.entries key.text span (.table .header entries) }
  | some _ => none

/-- A table with one more table in an array. -/
def insertElement (key : Key) (span : Span) (tree : Tree) : Option Tree :=
  let element : Span × Value := (span, .table .header [])
  match find? tree.entries key.text with
  | none =>
      some { tree with entries := tree.entries ++ [(key, span, .array true [element])] }
  | some (place, .array true items) =>
      some { tree with
        entries := replace tree.entries key.text place (.array true (items ++ [element])) }
  | some _ => none

end Tree

/-- A document while it is put together: its tables, and the way to the table whose
header was written last. -/
structure Draft where
  /-- The tables. -/
  root : Tree
  /-- The way to the current table. -/
  current : List Key

namespace Draft

/-- An empty document. -/
def empty : Draft :=
  ⟨.empty .header, []⟩

/-- The document after one more statement. -/
def add (draft : Draft) : Statement → Option Draft
  | .pair path key span value =>
      (Tree.alter false (Tree.insertAt path key span value) draft.current draft.root).map
        fun root => { draft with root }
  | .header path key span =>
      (Tree.alter false (Tree.insertHeader key span) path draft.root).map
        fun root => ⟨root, path ++ [key]⟩
  | .element path key span =>
      (Tree.alter false (Tree.insertElement key span) path draft.root).map
        fun root => ⟨root, path ++ [key]⟩

/-- The table that statements describe. -/
def ofStatements? (statements : List Statement) : Option Entries :=
  (statements.foldlM add empty).map (·.root.entries)

end Draft
end Toml
end Switchboard
