import Switchboard.Decimal.Binary

/-!
# Shortest decimals

The text of a number of double precision has the fewest digits that still lead
back to the number, and of those the nearest.  It is written without a power of
ten, and always with a point.
-/

namespace Switchboard
namespace Binary

/-- A positive quotient. -/
structure Ratio where
  /-- Above the line. -/
  numerator : Nat
  /-- Below the line. -/
  denominator : Nat

namespace Ratio

/-- A number times a power of two. -/
def ofBinary (factor : Nat) (exponent : Int) : Ratio :=
  match exponent with
  | .ofNat power => ⟨factor * Nat.pow 2 power, 1⟩
  | .negSucc power => ⟨factor, Nat.pow 2 (power + 1)⟩

/-- A number times a power of ten. -/
def ofDecimal (factor : Nat) (exponent : Int) : Ratio :=
  match exponent with
  | .ofNat power => ⟨factor * Nat.pow 10 power, 1⟩
  | .negSucc power => ⟨factor, Nat.pow 10 (power + 1)⟩

/-- Whether a quotient is less than another. -/
def less (left right : Ratio) : Bool :=
  left.numerator * right.denominator < right.numerator * left.denominator

/-- The whole part of a quotient divided by a power of ten. -/
def wholeIn (ratio : Ratio) (exponent : Int) : Nat :=
  match exponent with
  | .ofNat power => ratio.numerator / (ratio.denominator * Nat.pow 10 power)
  | .negSucc power => ratio.numerator * Nat.pow 10 (power + 1) / ratio.denominator

/-- The power of ten of the leading digit of a quotient. -/
def leading (ratio : Ratio) : Int :=
  if ratio.denominator ≤ ratio.numerator then
    (Nat.toDigits 10 (ratio.numerator / ratio.denominator)).length - 1
  else
    let inverse := (ratio.denominator + ratio.numerator - 1) / ratio.numerator
    let places : Nat := (Nat.toDigits 10 (inverse - 1)).length
    0 - (places : Int)

end Ratio

/-- The quotients that are rounded to a number, and the number itself. -/
structure Neighbourhood where
  /-- The least of them. -/
  low : Ratio
  /-- The number. -/
  centre : Ratio
  /-- The greatest of them. -/
  high : Ratio
  /-- Whether the least and the greatest belong to them. -/
  closed : Bool

/-- The quotients that are rounded to a significand times a power of two.  Below a
power of two the numbers lie twice as close. -/
def neighbourhood (significand : Nat) (exponent : Int) : Neighbourhood :=
  let below :=
    if significand = Nat.pow 2 (precision - 1) ∧ minExponent < exponent then 1 else 2
  { low := .ofBinary (4 * significand - below) (exponent - 2)
    centre := .ofBinary (4 * significand) (exponent - 2)
    high := .ofBinary (4 * significand + 2) (exponent - 2)
    closed := significand % 2 = 0 }

/-- Whether a quotient is rounded to the number. -/
def Neighbourhood.holds (around : Neighbourhood) (ratio : Ratio) : Bool :=
  if around.closed then
    !ratio.less around.low && !around.high.less ratio
  else
    around.low.less ratio && ratio.less around.high

/-- The digits on the grid of a power of ten that are rounded to the number, if
there are any: those below the number or those above, whichever are nearer. -/
def Neighbourhood.onGrid? (around : Neighbourhood) (exponent : Int) : Option Nat :=
  let below := around.centre.wholeIn exponent
  let above := below + 1
  match around.holds (.ofDecimal below exponent), around.holds (.ofDecimal above exponent) with
  | true, true =>
      let doubled : Ratio :=
        ⟨2 * around.centre.numerator, around.centre.denominator⟩
      some (if (Ratio.ofDecimal (below + above) exponent).less doubled then above else below)
  | true, false => some below
  | false, true => some above
  | false, false => none

/-- The digits on the coarsest of several grids, each ten times as fine as the one
before it, and the power of ten of that grid. -/
def Neighbourhood.coarsest?
    (around : Neighbourhood) : Nat → Int → Option (Nat × Int)
  | 0, _ => none
  | grids + 1, exponent =>
      match around.onGrid? exponent with
      | some digits => some (digits, exponent)
      | none => around.coarsest? grids (exponent - 1)

/-- The fewest digits that lead back to a positive number, with their power of ten;
17 digits always do. -/
def shortest (significand : Nat) (exponent : Int) : Nat × Int :=
  let around := neighbourhood significand exponent
  (around.coarsest? 17 around.centre.leading).getD (0, 0)

/-- Digits times a power of ten, without the power. -/
def positional (digits : Nat) (exponent : Int) : List Char :=
  let shown := Nat.toDigits 10 digits
  match exponent with
  | .ofNat power => shown ++ List.replicate power '0' ++ ['.', '0']
  | .negSucc power =>
      let places := power + 1
      let padded := List.replicate (places + 1 - shown.length) '0' ++ shown
      let point := padded.length - places
      padded.take point ++ '.' :: padded.drop point

/-- The text of a number. -/
def render : Binary → String
  | .finite negative significand exponent =>
      let digits :=
        if significand = 0 then ['0', '.', '0']
        else
          let (digits, power) := shortest significand exponent
          positional digits power
      String.ofList (if negative then '-' :: digits else digits)
  | .infinite negative => if negative then "-inf" else "inf"
  | .notANumber => "NaN"

end Binary
end Switchboard
