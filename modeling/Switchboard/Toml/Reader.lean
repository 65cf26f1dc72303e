import Switchboard.Toml.Quote
import Switchboard.Toml.Scalar
import Switchboard.Toml.Tree

/-!
# Reading a document

A document is a sequence of lines.  A line is empty, holds a key with its value, or
is the header of a table; a comment may end it.  Values between brackets and braces
may extend over several lines.
-/

namespace Switchboard
namespace Toml

/-- How deep brackets and braces may be nested. -/
def maxDepth : Nat := 80

/-- What follows blanks. -/
def skipSpaces (chars : List Char) : List Char :=
  chars.dropWhile isSpace

/-- What follows blanks, line breaks and comments, in a comment or outside. -/
def skipGap (inComment : Bool) : List Char → Option (List Char)
  | [] => some []
  | char :: rest =>
      if char = '\n' then skipGap false rest
      else if char = '\r' then
        if beginsBreak rest then skipGap false rest else none
      else if inComment then
        if isPlain char then skipGap true rest else none
      else if isSpace char then skipGap false rest
      else if char = '#' then skipGap true rest
      else some (char :: rest)

/-- What follows the end of a line, of which only blanks and a comment may be left. -/
def endLine (inComment : Bool) : List Char → Option (List Char)
  | [] => some []
  | char :: rest =>
      if char = '\n' then some rest
      else if char = '\r' then
        if beginsBreak rest then some (rest.drop 1) else none
      else if inComment then
        if isPlain char then endLine true rest else none
      else if isSpace char then endLine false rest
      else if char = '#' then endLine true rest
      else none

/-- A character of a key without quotes. -/
def isKeyChar (char : Char) : Bool :=
  char.isAlphanum || char == '-' || char == '_'

/-- A key without dots. -/
def simpleKey : Reader Key := fun chars =>
  let read :=
    if chars.head?.any fun char => char == '"' || char == '\'' then quotedKey chars
    else if chars.head?.any isKeyChar then
      some (chars.takeWhile isKeyChar, chars.dropWhile isKeyChar)
    else none
  read.map fun (text, rest) => (⟨String.ofList text, .between chars rest⟩, rest)

/-- Keys with dots between them: those before the last one, and the last one. -/
def dottedKey : Nat → Reader (List Key × Key)
  | 0, _ => none
  | fuel + 1, chars => do
      let (key, rest) ← simpleKey chars
      match skipSpaces rest with
      | '.' :: more =>
          let ((path, last), rest) ← dottedKey fuel (skipSpaces more)
          return ((key :: path, last), rest)
      | _ => return (([], key), rest)

/-- Keys with dots between them. -/
def keys : Reader (List Key × Key) := fun chars =>
  dottedKey (chars.length + 1) chars

/-- A value with its place. -/
def placed (reader : Reader Value) : Reader (Span × Value) := fun chars =>
  (reader chars).map fun (value, rest) => ((.between chars rest, value), rest)

/-- The rest of an array, of which a number of items may still come. -/
def arrayItems (element : Reader (Span × Value)) : Nat → Reader (List (Span × Value))
  | 0, _ => none
  | fuel + 1, chars => do
      match ← skipGap false chars with
      | ']' :: rest => return ([], rest)
      | begun =>
          let (item, rest) ← element begun
          match ← skipGap false rest with
          | ',' :: rest =>
              let (items, rest) ← arrayItems element fuel rest
              return (item :: items, rest)
          | ']' :: rest => return ([item], rest)
          | _ => none

/-- A key, an equality sign and a value. -/
def pair (element : Reader (Span × Value)) :
    Reader ((List Key × Key) × Span × Value) := fun chars => do
  let (key, rest) ← keys chars
  match skipSpaces rest with
  | '=' :: rest =>
      let (item, rest) ← element (skipSpaces rest)
      return ((key, item), rest)
  | _ => none

/-- The rest of a table between braces, of which a number of pairs may still come. -/
def inlinePairs (element : Reader (Span × Value)) : Nat → Tree → Reader Tree
  | 0, _, _ => none
  | fuel + 1, tree, chars => do
      match ← skipGap false chars with
      | '\x7d' :: rest => return (tree, rest)
      | begun =>
          let (((path, key), span, value), rest) ← pair element begun
          let tree ← tree.insertAt path key span value
          match ← skipGap false rest with
          | ',' :: rest => inlinePairs element fuel tree rest
          | '\x7d' :: rest => return (tree, rest)
          | _ => none

/-- A value in which brackets and braces are nested at most so deep. -/
def value : Nat → Reader Value
  | depth, chars =>
      match chars with
      | [] => none
      | first :: rest =>
          if first = '"' ∨ first = '\'' then
            (quote chars).map fun (text, rest) => (.string (String.ofList text), rest)
          else if first = '[' then
            match depth with
            | 0 => none
            | depth + 1 =>
                (arrayItems (placed (value depth)) (rest.length + 1) rest).map
                  fun (items, rest) => (.array false items, rest)
          else if first = '\x7b' then
            match depth with
            | 0 => none
            | depth + 1 =>
                (inlinePairs (placed (value depth)) (rest.length + 1) (.empty .inline) rest).map
                  fun (tree, rest) => (.table tree.form tree.entries, rest)
          else
            scalar chars

/-- A key with its value. -/
def pairStatement : Reader Statement := fun chars => do
  let (((path, key), span, item), rest) ← pair (placed (value maxDepth)) chars
  return (.pair path key span item, rest)

/-- The header of a table, or of one more table of an array. -/
def headerStatement : Reader Statement := fun chars =>
  match chars with
  | '[' :: '[' :: rest => do
      let ((path, key), rest) ← keys (skipSpaces rest)
      match skipSpaces rest with
      | ']' :: ']' :: rest => return (.element path key (.between chars rest), rest)
      | _ => none
  | '[' :: rest => do
      let ((path, key), rest) ← keys (skipSpaces rest)
      match skipSpaces rest with
      | ']' :: rest => return (.header path key (.between chars rest), rest)
      | _ => none
  | _ => none

/-- A line that is not empty. -/
def statement : Reader Statement := fun chars =>
  if chars.head? = some '[' then headerStatement chars else pairStatement chars

/-- The statements of a document, of which a number of lines may still come. -/
def lines : Nat → List Char → Option (List Statement)
  | 0, _ => none
  | fuel + 1, chars =>
      match skipGap false chars with
      | none => none
      | some [] => some []
      | some begun => do
          let (first, rest) ← statement begun
          let rest ← endLine false rest
          let others ← lines fuel rest
          return first :: others

/-- A document without the mark that says how it is encoded. -/
def dropMark (source : List Char) : List Char :=
  match source with
  | mark :: rest => if mark.toNat = 0xFEFF then rest else source
  | [] => []

/-- The table that a document describes, if it is well formed. -/
def document? (source : List Char) : Option Entries :=
  (lines (source.length + 1) (dropMark source)).bind Draft.ofStatements?

end Toml
end Switchboard
