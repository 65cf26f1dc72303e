/-!
# Numbers of double precision

A number of double precision is a significand of at most 53 bits times a power of
two, an infinity, or not a number.  A decimal is rounded to the nearest such
number; of two that are equally near, the one with an even significand is taken.
-/

namespace Switchboard

/-- A number in decimal notation: digits times a power of ten. -/
structure Decimal where
  /-- Whether it is written with a minus sign. -/
  negative : Bool
  /-- Its digits, as a number. -/
  digits : Nat
  /-- The power of ten. -/
  exponent : Int
  deriving DecidableEq, Repr

/-- A number of double precision. -/
inductive Binary
  /-- A significand times a power of two. -/
  | finite (negative : Bool) (significand : Nat) (exponent : Int)
  | infinite (negative : Bool)
  | notANumber
  deriving DecidableEq, Repr

namespace Binary

/-- The number of bits of a significand. -/
def precision : Nat := 53

/-- The least power of two. -/
def minExponent : Int := -1074

/-- The greatest power of two. -/
def maxExponent : Int := 971

/-- A quotient divided by a power of two, as a numerator and a denominator. -/
def scaled
    (numerator denominator : Nat)
    (exponent : Int) : Nat × Nat :=
  match exponent with
  | .ofNat power => (numerator, denominator * Nat.pow 2 power)
  | .negSucc power => (numerator * Nat.pow 2 (power + 1), denominator)

/-- The natural number nearest to a quotient, the even one of two. -/
def nearest (numerator denominator : Nat) : Nat :=
  let whole := numerator / denominator
  let rest := numerator % denominator
  if 2 * rest < denominator then whole
  else if denominator < 2 * rest then whole + 1
  else if whole % 2 = 0 then whole
  else whole + 1

/-- The power of two with which a positive quotient has a significand of full
precision, or the least power that there is. -/
def exponentFor (numerator denominator : Nat) : Int :=
  let estimate : Int :=
    (Nat.log2 numerator : Int) - (Nat.log2 denominator : Int) - (precision - 1)
  let (upper, lower) := scaled numerator denominator estimate
  let fitting := if Nat.pow 2 (precision - 1) ≤ upper / lower then estimate else estimate - 1
  max fitting minExponent

/-- The number nearest to a positive quotient. -/
def ofQuotient
    (negative : Bool)
    (numerator denominator : Nat) : Binary :=
  let exponent := exponentFor numerator denominator
  let (upper, lower) := scaled numerator denominator exponent
  let significand := nearest upper lower
  let (significand, exponent) :=
    if significand = Nat.pow 2 precision then (Nat.pow 2 (precision - 1), exponent + 1)
    else (significand, exponent)
  if maxExponent < exponent then .infinite negative
  else .finite negative significand exponent

/-- The number nearest to a decimal.  A decimal far outside the range is not worked
out. -/
def ofDecimal (decimal : Decimal) : Binary :=
  if decimal.digits = 0 then
    .finite decimal.negative 0 0
  else
    let magnitude : Int := (Nat.toDigits 10 decimal.digits).length + decimal.exponent
    if 400 < magnitude then .infinite decimal.negative
    else if magnitude < -400 then .finite decimal.negative 0 0
    else
      match decimal.exponent with
      | .ofNat power => ofQuotient decimal.negative (decimal.digits * Nat.pow 10 power) 1
      | .negSucc power => ofQuotient decimal.negative decimal.digits (Nat.pow 10 (power + 1))

end Binary
end Switchboard
