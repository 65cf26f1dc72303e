import Switchboard.Toml.Value

/-!
# Quoted texts of a document

A text stands between double quotes or between single quotes, one or three of
them.  Between double quotes a backslash marks characters that cannot be written as
they are; between single quotes all is taken as it is.  Texts between three quotes
may have lines.
-/

namespace Switchboard
namespace Toml

/-- A character that may stand in a text as it is: no control but the tab. -/
def isPlain (char : Char) : Bool :=
  char == '\t' || (0x20 ≤ char.toNat && char.toNat != 0x7F)

/-- A blank of a line. -/
def isSpace (char : Char) : Bool :=
  char == ' ' || char == '\t'

/-- The value of a digit in hexadecimal notation. -/
def hexValue? (char : Char) : Option Nat :=
  if '0' ≤ char ∧ char ≤ '9' then some (char.toNat - '0'.toNat)
  else if 'a' ≤ char ∧ char ≤ 'f' then some (char.toNat - 'a'.toNat + 10)
  else if 'A' ≤ char ∧ char ≤ 'F' then some (char.toNat - 'A'.toNat + 10)
  else none

/-- The character with a number, if there is one. -/
def charOf? (number : Nat) : Option Char :=
  if h : number.isValidChar then some (Char.ofNatAux number h) else none

/-- The character that a letter behind a backslash stands for. -/
def marked? (char : Char) : Option Char :=
  match char with
  | 'b' => some '\x08'
  | 't' => some '\t'
  | 'n' => some '\n'
  | 'f' => some '\x0c'
  | 'r' => some '\r'
  | 'e' => some '\x1b'
  | '"' => some '"'
  | '\\' => some '\\'
  | _ => none

/-- How many digits of a character's number follow a letter behind a backslash. -/
def codeLength? (char : Char) : Option Nat :=
  match char with
  | 'x' => some 2
  | 'u' => some 4
  | 'U' => some 8
  | _ => none

/-- How far the reading of a marked character has come. -/
inductive Mark
  /-- No marked character has begun. -/
  | clear
  /-- The backslash has been read. -/
  | begun
  /-- Digits are still to come, and some have been read. -/
  | code (digits : Nat) (value : Nat)

/-- What the next character of a marked character gives: the next state, with the
character if it is complete. -/
def Mark.next? (digits value : Nat) (char : Char) : Option (Mark × Option Char) :=
  match hexValue? char with
  | none => none
  | some digit =>
      let number := value * 16 + digit
      if digits ≤ 1 then (charOf? number).map fun complete => (.clear, some complete)
      else some (.code (digits - 1) number, none)

/-- What the character behind a backslash gives. -/
def Mark.opening? (char : Char) : Option (Mark × Option Char) :=
  match marked? char, codeLength? char with
  | some complete, _ => some (.clear, some complete)
  | none, some digits => some (.code digits 0, none)
  | none, none => none

/-- A text that has been read, with one more character in front. -/
def push (char : Char) (read : Option (List Char × List Char)) :
    Option (List Char × List Char) :=
  read.map fun (text, rest) => (char :: text, rest)

/-- A text that has been read, with perhaps one more character in front. -/
def push? (char? : Option Char) (read : Option (List Char × List Char)) :
    Option (List Char × List Char) :=
  match char? with
  | some char => push char read
  | none => read

/-- The rest of a text in one line up to its double quote. -/
def basicLine : Mark → Reader (List Char)
  | _, [] => none
  | .clear, char :: rest =>
      if char = '"' then some ([], rest)
      else if char = '\\' then basicLine .begun rest
      else if isPlain char then push char (basicLine .clear rest)
      else none
  | .begun, char :: rest =>
      match Mark.opening? char with
      | some (mark, complete?) => push? complete? (basicLine mark rest)
      | none => none
  | .code digits value, char :: rest =>
      match Mark.next? digits value char with
      | some (mark, complete?) => push? complete? (basicLine mark rest)
      | none => none

/-- Whether a line break is left out: behind a backslash at the end of a line all
blanks and line breaks are. -/
inductive Fold
  /-- Everything counts. -/
  | off
  /-- The line with the backslash has not ended. -/
  | sameLine
  /-- The line with the backslash has ended. -/
  | nextLine
  deriving DecidableEq

/-- How far the reading of a text with lines has come. -/
inductive BlockMark
  | plain (fold : Fold)
  | marked (mark : Mark)

/-- The state behind a marked character. -/
def BlockMark.ofMark : Mark → BlockMark
  | .clear => .plain .off
  | mark => .marked mark

/-- The double quotes, two at most, with which a text goes on behind three of them. -/
def closingQuotes (quote : Char) (rest : List Char) : List Char × List Char :=
  let more := min 2 (rest.takeWhile (· == quote)).length
  (List.replicate more quote, rest.drop more)

/-- Whether a carriage return is followed by a line feed. -/
def beginsBreak (rest : List Char) : Bool :=
  rest.head? == some '\n'

/-- The rest of a text with lines up to its three double quotes. -/
def basicBlock : BlockMark → Reader (List Char)
  | _, [] => none
  | .plain fold, char :: rest =>
      if fold ≠ .off ∧ isSpace char then basicBlock (.plain fold) rest
      else if fold ≠ .off ∧ char = '\n' then basicBlock (.plain .nextLine) rest
      else if fold ≠ .off ∧ char = '\r' then
        if beginsBreak rest then basicBlock (.plain fold) rest else none
      else if fold = .sameLine then none
      else if char = '"' ∧ ['"', '"'].isPrefixOf rest then
        some (closingQuotes '"' (rest.drop 2))
      else if char = '\\' then basicBlock (.marked .begun) rest
      else if char = '\r' then
        if beginsBreak rest then push char (basicBlock (.plain .off) rest) else none
      else if char = '\n' ∨ isPlain char then
        push char (basicBlock (.plain .off) rest)
      else none
  | .marked (.code digits value), char :: rest =>
      match Mark.next? digits value char with
      | some (mark, complete?) => push? complete? (basicBlock (.ofMark mark) rest)
      | none => none
  | .marked _, char :: rest =>
      if isSpace char then basicBlock (.plain .sameLine) rest
      else if char = '\n' then basicBlock (.plain .nextLine) rest
      else if char = '\r' then
        if beginsBreak rest then basicBlock (.plain .sameLine) rest else none
      else
        match Mark.opening? char with
        | some (mark, complete?) => push? complete? (basicBlock (.ofMark mark) rest)
        | none => none

/-- The rest of a text in one line up to its single quote. -/
def literalLine : Reader (List Char)
  | [] => none
  | char :: rest =>
      if char = '\'' then some ([], rest)
      else if isPlain char then push char (literalLine rest)
      else none

/-- The rest of a text with lines up to its three single quotes. -/
def literalBlock : Reader (List Char)
  | [] => none
  | char :: rest =>
      if char = '\'' ∧ ['\'', '\''].isPrefixOf rest then
        some (closingQuotes '\'' (rest.drop 2))
      else if char = '\r' then
        if beginsBreak rest then push char (literalBlock rest) else none
      else if char = '\n' ∨ isPlain char then
        push char (literalBlock rest)
      else none

/-- A text without the line break at its begin. -/
def dropBreak : List Char → List Char
  | '\n' :: rest => rest
  | '\r' :: '\n' :: rest => rest
  | rest => rest

/-- A quoted text. -/
def quote : Reader (List Char)
  | '"' :: '"' :: '"' :: rest => basicBlock (.plain .off) (dropBreak rest)
  | '"' :: rest => basicLine .clear rest
  | '\'' :: '\'' :: '\'' :: rest => literalBlock (dropBreak rest)
  | '\'' :: rest => literalLine rest
  | _ => none

/-- A quoted text that can be a key: it stands in one line. -/
def quotedKey : Reader (List Char)
  | '"' :: rest => basicLine .clear rest
  | '\'' :: rest => literalLine rest
  | _ => none

end Toml
end Switchboard
