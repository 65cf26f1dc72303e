/-!
# Fields of a text

A text is divided into fields at its separators; between two separators that
follow each other there is an empty field.
-/

namespace Switchboard
namespace Text

/-- The fields of a text, the separators left out. -/
def fields (separator : Char) : List Char → List (List Char)
  | [] => [[]]
  | char :: rest =>
      match fields separator rest with
      | [] => [[char]]
      | first :: others =>
          if char = separator then [] :: first :: others
          else (char :: first) :: others

/-- What stands behind the last separator, if there is one. -/
def lastField? (separator : Char) (chars : List Char) : Option (List Char) :=
  if chars.contains separator then (fields separator chars).getLast? else none

/-- The digits of a number in decimal notation, if there are any and nothing else. -/
def decimal? (chars : List Char) : Option Nat :=
  if !chars.isEmpty && chars.all Char.isDigit then
    some (chars.foldl (fun value digit => value * 10 + (digit.toNat - '0'.toNat)) 0)
  else
    none

/-- A number in decimal notation, which may begin with a plus sign, below a bound. -/
def unsigned? (bound : Nat) (chars : List Char) : Option Nat :=
  let digits :=
    match chars with
    | '+' :: rest => rest
    | _ => chars
  (decimal? digits).filter (· < bound)

end Text
end Switchboard
