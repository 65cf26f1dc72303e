import Switchboard.Decimal.Binary

/-!
# Values of a document

A document is a table of values.  Each value knows where it was written, so that a
complaint about it can show the place.
-/

namespace Switchboard
namespace Toml

/-- A place in a document, by the number of characters that follow its begin and its
end. -/
structure Span where
  /-- How many characters follow the begin. -/
  start : Nat
  /-- How many characters follow the end. -/
  stop : Nat
  deriving DecidableEq, Repr

/-- A number with a point or a power of ten, as it is written. -/
inductive Float
  | finite (decimal : Decimal)
  | infinite (negative : Bool)
  | notANumber
  deriving DecidableEq, Repr

/-- The number of double precision that is nearest to what is written, unless that is
too large. -/
def Float.value? : Float → Option Binary
  | .finite decimal =>
      match Binary.ofDecimal decimal with
      | .infinite _ => none
      | value => some value
  | .infinite negative => some (.infinite negative)
  | .notANumber => some .notANumber

/-- How a table came about. -/
inductive Form
  /-- Its header is written. -/
  | header
  /-- It is named on the way to another header. -/
  | implicit
  /-- It is named on the way to a key with dots. -/
  | dotted
  /-- It is written between braces. -/
  | inline
  deriving DecidableEq, Repr

/-- A key as it is written. -/
structure Key where
  /-- Its text. -/
  text : String
  /-- Its place. -/
  span : Span
  deriving DecidableEq, Repr

/-- A value. -/
inductive Value
  | string (text : String)
  | integer (value : Int)
  | float (number : Float)
  | boolean (value : Bool)
  | dateTime
  /-- Values in order, each with its place; an array of tables can be extended. -/
  | array (ofTables : Bool) (items : List (Span × Value))
  /-- Keys with values, each with its place. -/
  | table (form : Form) (entries : List (Key × Span × Value))

/-- The entries of a table. -/
abbrev Entries := List (Key × Span × Value)

/-- What is written on a line of a document. -/
inductive Statement
  /-- A key, perhaps with dots before it, and its value. -/
  | pair (path : List Key) (key : Key) (span : Span) (value : Value)
  /-- The header of a table. -/
  | header (path : List Key) (key : Key) (span : Span)
  /-- The header of one more table of an array. -/
  | element (path : List Key) (key : Key) (span : Span)

/-- A reader takes what it reads from the front of a text and leaves the rest. -/
abbrev Reader (α : Type) := List Char → Option (α × List Char)

/-- The place of what has been read, from the text before and the rest after. -/
def Span.between (before after : List Char) : Span :=
  ⟨before.length, after.length⟩

end Toml
end Switchboard
