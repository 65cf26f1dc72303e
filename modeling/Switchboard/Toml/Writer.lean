import Switchboard.Toml.Value

/-!
# Writing texts into a document

A text is written in the plainest form that can hold it: between double quotes,
between single quotes, between three double quotes, between three single quotes; and
if none of these can hold it as it is, between double quotes with marked characters.
-/

namespace Switchboard
namespace Toml

/-- A control that can only be written as a marked character. -/
def needsMark (char : Char) : Bool :=
  (char.toNat < 0x20 && char != '\t' && char != '\n') || char.toNat == 0x7F

/-- The longest row of a character in a text, counting from a row in front of it. -/
def longestRow (mark : Char) : Nat → List Char → Nat
  | row, [] => row
  | row, char :: rest =>
      if char = mark then longestRow mark (row + 1) rest
      else max row (longestRow mark 0 rest)

/-- The forms in which a text can be written. -/
inductive Style
  /-- Between double quotes. -/
  | basic
  /-- Between single quotes. -/
  | literal
  /-- Between three double quotes. -/
  | basicBlock
  /-- Between three single quotes. -/
  | literalBlock
  deriving DecidableEq, Repr

namespace Style

/-- The plainest form that can hold a text. -/
def choose (text : List Char) : Style :=
  let hasLines := text.contains '\n'
  if text.any needsMark then
    if hasLines then .basicBlock else .basic
  else
    let hasBackslash := text.contains '\\'
    let doubles := longestRow '"' 0 text
    let singles := longestRow '\'' 0 text
    if !hasBackslash && doubles = 0 && !hasLines then .basic
    else if singles = 0 && !hasLines then .literal
    else if !hasBackslash && doubles ≤ 2 then .basicBlock
    else if singles ≤ 2 then .literalBlock
    else if hasLines then .basicBlock
    else .basic

/-- What stands before and after a text. -/
def delimiter : Style → List Char
  | .basic => ['"']
  | .literal => ['\'']
  | .basicBlock => ['"', '"', '"']
  | .literalBlock => ['\'', '\'', '\'']

/-- Whether a text may have lines. -/
def isBlock : Style → Bool
  | .basic | .literal => false
  | .basicBlock | .literalBlock => true

end Style

/-- A digit in hexadecimal notation, with capitals. -/
def hexDigit (digit : Nat) : Char :=
  if digit < 10 then Char.ofNat (digit + '0'.toNat)
  else Char.ofNat (digit - 10 + 'A'.toNat)

/-- A character by its number of four digits. -/
def numbered (char : Char) : List Char :=
  let code := char.toNat
  ['\\', 'u', hexDigit (code / 4096 % 16), hexDigit (code / 256 % 16),
    hexDigit (code / 16 % 16), hexDigit (code % 16)]

/-- The marked form of a character that is no double quote, if it has to be marked. -/
def marked (inBlock : Bool) (char : Char) : List Char :=
  if char = '\x08' then ['\\', 'b']
  else if char = '\t' then ['\\', 't']
  else if char = '\n' then if inBlock then ['\n'] else ['\\', 'n']
  else if char = '\x0c' then ['\\', 'f']
  else if char = '\r' then ['\\', 'r']
  else if char = '\\' then ['\\', '\\']
  else if needsMark char then numbered char
  else [char]

/-- A text with marked characters, behind a row of double quotes; in a block only
every third of them is marked. -/
def escaped (inBlock : Bool) : Nat → List Char → List Char
  | _, [] => []
  | row, char :: rest =>
      if char = '"' then
        if inBlock ∧ row < 2 then '"' :: escaped inBlock (row + 1) rest
        else '\\' :: '"' :: escaped inBlock 0 rest
      else marked inBlock char ++ escaped inBlock 0 rest

/-- What stands between the delimiters of a text. -/
def styled (style : Style) (text : List Char) : List Char :=
  match style with
  | .literal | .literalBlock => text
  | .basic => escaped false 0 text
  | .basicBlock => escaped true 0 text

/-- A text as it is written; a block that has lines begins with a line break. -/
def writeText (text : List Char) : List Char :=
  let style := Style.choose text
  let opening := if style.isBlock && text.contains '\n' then ['\n'] else []
  style.delimiter ++ opening ++ styled style text ++ style.delimiter

/-- A line with a key and its value. -/
def writePair (key : String) (value : List Char) : List Char :=
  key.toList ++ ' ' :: '=' :: ' ' :: value ++ ['\n']

/-- A number as it is written. -/
def writeNumber (number : Nat) : List Char :=
  Nat.toDigits 10 number

/-- A truth value as it is written. -/
def writeTruth (value : Bool) : List Char :=
  (if value then "true" else "false").toList

end Toml
end Switchboard
