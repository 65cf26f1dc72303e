import Switchboard.Decimal.Shortest
import Switchboard.Text.Octets
import Switchboard.Text.Fields
import Switchboard.Text.Quoted
import Switchboard.Toml.Value

/-!
# Complaints about a document

A well-formed document can still have a value where another kind of value is
expected.  A complaint says so, with the place: the line is shown, and the value is
underlined.
-/

namespace Switchboard
namespace Toml

/-- The kinds of values, as complaints name them. -/
inductive Kind
  | string (text : String)
  | integer (value : Int)
  | float (number : Binary)
  | boolean (value : Bool)
  | sequence
  | map

/-- The text of a kind.  Whole numbers beyond 64 bits are named with their size. -/
def Kind.render : Kind → String
  | .string text => "string " ++ Text.quoted text
  | .integer value =>
      let size :=
        if -(Int.pow 2 63) ≤ value ∧ value < Int.pow 2 64 then ""
        else if value < Int.pow 2 127 then " as i128"
        else " as u128"
      "integer `" ++ toString value ++ "`" ++ size
  | .float number => "floating point `" ++ number.render ++ "`"
  | .boolean value => "boolean `" ++ (if value then "true" else "false") ++ "`"
  | .sequence => "sequence"
  | .map => "map"

/-- What can be wrong with a value. -/
inductive Complaint
  /-- A value of another kind is expected. -/
  | wrongKind (found : Kind) (expected : String)
  /-- A number is out of the range that is expected. -/
  | outOfRange (found : Kind) (expected : String)
  /-- An array is too short. -/
  | tooShort (length : Nat) (expected : String)
  /-- A key is missing. -/
  | missing (key : String)
  /-- A whole number is beyond 128 bits. -/
  | integerOverflow
  /-- A number is beyond double precision. -/
  | floatOverflow
  /-- One of several words is expected, or a table whose key is such a word. -/
  | noWord
  /-- A table that stands for a word is empty. -/
  | noEntry
  /-- A table that stands for a word has several keys. -/
  | manyEntries
  /-- The array behind a word is not empty. -/
  | fullArray
  /-- The table behind a word is not empty. -/
  | fullTable
  /-- Behind a word there is neither an array nor a table. -/
  | wordValue (found : String)
  /-- A word is none of those that are expected. -/
  | unknownWord (found : String) (expected : List String)

/-- A word between the marks in which complaints put it. -/
def ticked (word : String) : String :=
  "`" ++ word ++ "`"

/-- The text of a complaint. -/
def Complaint.message : Complaint → String
  | .wrongKind found expected => "invalid type: " ++ found.render ++ ", expected " ++ expected
  | .outOfRange found expected =>
      "invalid value: " ++ found.render ++ ", expected " ++ expected
  | .tooShort length expected =>
      "invalid length " ++ toString length ++ ", expected " ++ expected
  | .missing key => "missing field " ++ ticked key
  | .integerOverflow => "integer number overflowed"
  | .floatOverflow => "floating-point number overflowed"
  | .noWord => "wanted string or table"
  | .noEntry => "wanted exactly 1 element, found 0 elements"
  | .manyEntries => "wanted exactly 1 element, more than 1 element"
  | .fullArray => "expected empty array"
  | .fullTable => "expected empty table"
  | .wordValue found => "expected table, found " ++ found
  | .unknownWord found expected =>
      "unknown variant " ++ ticked found ++ ", expected one of " ++
        String.intercalate ", " (expected.map ticked)

/-- A line of a document with a part of it underlined. -/
structure Excerpt where
  /-- The number of the line. -/
  line : Nat
  /-- The number of characters in front of the part. -/
  indent : Nat
  /-- The line. -/
  content : List Char
  /-- How many marks underline the part. -/
  marks : Nat

namespace Excerpt

/-- The place of a value in the text of a document.  What does not fit on its line is
not underlined. -/
def of (source : List Char) (span : Span) : Excerpt :=
  let offset := source.length - span.start
  let before := source.take offset
  let indent := (before.reverse.takeWhile (· != '\n')).length
  let line := before.count '\n'
  let content := (Text.fields '\n' source).getD line []
  let width := Text.width ((source.drop offset).take (span.start - span.stop))
  ⟨line + 1, indent, content, max 1 (min width (Text.width content - indent))⟩

/-- An excerpt, with the line's number in front of it. -/
def render (excerpt : Excerpt) : String :=
  let number := toString excerpt.line
  let margin := String.ofList (List.replicate (number.length + 1) ' ')
  margin ++ "|\n" ++
    number ++ " | " ++ String.ofList excerpt.content ++ "\n" ++
    margin ++ "|" ++
    String.ofList (List.replicate (excerpt.indent + 1) ' ' ++ List.replicate excerpt.marks '^') ++
    "\n"

end Excerpt

/-- Why a document cannot be used. -/
inductive Fault
  /-- It is not well formed. -/
  | malformed
  /-- There is a complaint about a value in it. -/
  | complaint (excerpt : Excerpt) (cause : Complaint)

/-- The text of a document's fault. -/
def Fault.message : Fault → String
  | .malformed => "TOML parse error: <syntax>"
  | .complaint excerpt cause =>
      "TOML parse error: TOML parse error at line " ++ toString excerpt.line ++
        ", column " ++ toString (excerpt.indent + 1) ++ "\n" ++
        excerpt.render ++ cause.message ++ "\n"

end Toml
end Switchboard
