import Switchboard.Text.Fields
import Switchboard.Toml.Value

/-!
# Numbers, truth values and dates of a document

What is neither quoted nor bracketed is a word of letters, digits and signs.  A word
is a truth value, a whole number, a number with a point or a power of ten, or a date
or a time.
-/

namespace Switchboard
namespace Toml

/-- A character of a word. -/
def isWordChar (char : Char) : Bool :=
  char.isAlphanum || char == '+' || char == '-' || char == '_' || char == '.' ||
    char == ':'

/-- The digits of a number that single underscores may divide. -/
def grouped? (isDigit : Char → Bool) (chars : List Char) : Option (List Char) :=
  let groups := Text.fields '_' chars
  if groups.all fun group => !group.isEmpty && group.all isDigit then
    some groups.flatten
  else
    none

/-- The value of a digit, of which letters are the higher ones. -/
def digitValue (char : Char) : Nat :=
  if char.isDigit then char.toNat - '0'.toNat
  else if 'a' ≤ char then char.toNat - 'a'.toNat + 10
  else char.toNat - 'A'.toNat + 10

/-- The number that digits stand for in a base. -/
def numberIn (base : Nat) (digits : List Char) : Nat :=
  digits.foldl (fun value digit => value * base + digitValue digit) 0

/-- A digit of a base. -/
def isDigitIn (base : Nat) (char : Char) : Bool :=
  char.isAlphanum && digitValue char < base

/-- Whether digits have no needless zero in front. -/
def isTight (digits : List Char) : Bool :=
  digits.length == 1 || digits.head? != some '0'

/-- A sign, which may be missing, and what follows it. -/
def splitSign : List Char → Bool × List Char
  | '-' :: rest => (true, rest)
  | '+' :: rest => (false, rest)
  | rest => (false, rest)

/-- A number with a sign. -/
def signed (negative : Bool) (value : Nat) : Int :=
  if negative then -(value : Int) else value

/-- A whole number in decimal notation. -/
def decimalInteger? (word : List Char) : Option Int :=
  let (negative, unsigned) := splitSign word
  ((grouped? Char.isDigit unsigned).filter isTight).map fun digits =>
    signed negative (numberIn 10 digits)

/-- A whole number. -/
def integer? (word : List Char) : Option Int :=
  let inBase := fun base digits =>
    (grouped? (isDigitIn base) digits).map fun digits => ((numberIn base digits : Nat) : Int)
  match word with
  | '0' :: 'x' :: digits => inBase 16 digits
  | '0' :: 'o' :: digits => inBase 8 digits
  | '0' :: 'b' :: digits => inBase 2 digits
  | _ => decimalInteger? word

/-- The power of ten that follows an `e`. -/
def power? (chars : List Char) : Option Int :=
  let (negative, unsigned) := splitSign chars
  (grouped? Char.isDigit unsigned).map fun digits => signed negative (numberIn 10 digits)

/-- The two parts of a word around the first character of a kind. -/
def splitAt? (isMark : Char → Bool) (word : List Char) :
    List Char × Option (List Char) :=
  match word.dropWhile (!isMark ·) with
  | [] => (word, none)
  | _ :: rest => (word.takeWhile (!isMark ·), some rest)

/-- A number with a point or a power of ten in decimal notation. -/
def decimalFloat? (word : List Char) : Option Decimal :=
  let (negative, unsigned) := splitSign word
  let (mantissa, power) := splitAt? (fun char => char == 'e' || char == 'E') unsigned
  let (whole, fraction) := splitAt? (· == '.') mantissa
  if fraction.isNone && power.isNone then
    none
  else do
    let digits ← (grouped? Char.isDigit whole).filter isTight
    let places ←
      match fraction with
      | none => some []
      | some fraction => grouped? Char.isDigit fraction
    let exponent ←
      match power with
      | none => some 0
      | some power => power? power
    return ⟨negative, numberIn 10 (digits ++ places), exponent - places.length⟩

/-- A number with a point or a power of ten, an infinity, or not a number. -/
def float? (word : List Char) : Option Float :=
  let (negative, unsigned) := splitSign word
  if unsigned = ['i', 'n', 'f'] then some (.infinite negative)
  else if unsigned = ['n', 'a', 'n'] then some .notANumber
  else (decimalFloat? word).map .finite

/-- The number that so many digits at the front stand for, and what follows. -/
def fixedNumber? (count : Nat) (chars : List Char) : Option (Nat × List Char) :=
  let digits := chars.take count
  if digits.length = count ∧ digits.all Char.isDigit then
    some (numberIn 10 digits, chars.drop count)
  else
    none

/-- What follows a character at the front. -/
def after? (char : Char) : List Char → Option (List Char)
  | first :: rest => if first = char then some rest else none
  | [] => none

/-- The number of days of a month. -/
def monthLength (year month : Nat) : Nat :=
  if month = 2 then
    if year % 4 = 0 ∧ (year % 100 ≠ 0 ∨ year % 400 = 0) then 29 else 28
  else if month = 4 ∨ month = 6 ∨ month = 9 ∨ month = 11 then 30
  else 31

/-- What follows a date. -/
def afterDate? (chars : List Char) : Option (List Char) := do
  let (year, rest) ← fixedNumber? 4 chars
  let (month, rest) ← fixedNumber? 2 (← after? '-' rest)
  let (day, rest) ← fixedNumber? 2 (← after? '-' rest)
  guard (1 ≤ month ∧ month ≤ 12 ∧ 1 ≤ day ∧ day ≤ monthLength year month)
  return rest

/-- What follows an hour and a minute. -/
def afterMinute? (chars : List Char) : Option (List Char) := do
  let (hour, rest) ← fixedNumber? 2 chars
  let (minute, rest) ← fixedNumber? 2 (← after? ':' rest)
  guard (hour ≤ 23 ∧ minute ≤ 59)
  return rest

/-- What follows a time, in which seconds may be missing. -/
def afterTime? (chars : List Char) : Option (List Char) := do
  let rest ← afterMinute? chars
  match rest with
  | ':' :: rest =>
      let (second, rest) ← fixedNumber? 2 rest
      guard (second ≤ 60)
      match rest with
      | '.' :: fraction =>
          guard (fraction.head?.any Char.isDigit)
          return fraction.dropWhile Char.isDigit
      | _ => return rest
  | _ => return rest

/-- Whether characters are the distance of a time from universal time, or nothing. -/
def isOffset (chars : List Char) : Bool :=
  match chars with
  | [] => true
  | ['Z'] => true
  | ['z'] => true
  | '+' :: rest => afterMinute? rest == some []
  | '-' :: rest => afterMinute? rest == some []
  | _ => false

/-- Whether a word is a date. -/
def isDate (word : List Char) : Bool :=
  afterDate? word == some []

/-- Whether a word is a date, a time, or both. -/
def isDateTime (word : List Char) : Bool :=
  match afterDate? word with
  | some [] => true
  | some (divider :: time) =>
      (divider == 'T' || divider == 't' || divider == ' ') &&
        (afterTime? time).any isOffset
  | none => afterTime? word == some []

/-- The value that a word stands for. -/
def wordValue? (word : List Char) : Option Value :=
  if word = "true".toList then some (.boolean true)
  else if word = "false".toList then some (.boolean false)
  else
    match integer? word with
    | some value => some (.integer value)
    | none =>
        match float? word with
        | some number => some (.float number)
        | none => if isDateTime word then some .dateTime else none

/-- A value that is neither quoted nor bracketed.  Between a date and a time there may
be a space. -/
def scalar : Reader Value := fun chars =>
  let word := chars.takeWhile isWordChar
  let rest := chars.dropWhile isWordChar
  match isDate word, rest with
  | true, ' ' :: digit :: more =>
      if digit.isDigit then
        let time := (digit :: more).takeWhile isWordChar
        if isDateTime (word ++ ' ' :: time) then
          some (.dateTime, (digit :: more).dropWhile isWordChar)
        else
          none
      else
        some (.dateTime, rest)
  | _, _ => (wordValue? word).map fun value => (value, rest)

end Toml
end Switchboard
