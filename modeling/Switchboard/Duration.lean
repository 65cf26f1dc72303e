/-!
# Durations

A duration is a number of seconds and nanoseconds.  Its text uses the largest
unit of which it holds at least one, with the fraction written as far as it has
digits.
-/

namespace Switchboard

/-- A length of time. -/
structure Duration where
  /-- The whole seconds. -/
  seconds : Nat
  /-- The nanoseconds beyond them, fewer than a thousand million. -/
  nanoseconds : Nat
  deriving DecidableEq, Repr

namespace Duration

/-- A duration of whole seconds. -/
def ofSeconds (seconds : Nat) : Duration :=
  ⟨seconds, 0⟩

/-- The digits of a fraction with `places` places, without zeros at the end. -/
def fractionDigits (fraction places : Nat) : List Char :=
  let digits := Nat.toDigits 10 fraction
  let padded := List.replicate (places - digits.length) '0' ++ digits
  (padded.reverse.dropWhile (· == '0')).reverse

/-- A number with a fraction of `places` places and a unit. -/
def inUnit
    (whole fraction places : Nat)
    (unit : String) : String :=
  if fraction = 0 then
    toString whole ++ unit
  else
    toString whole ++ "." ++ String.ofList (fractionDigits fraction places) ++ unit

/-- The text of a duration. -/
def render (duration : Duration) : String :=
  let nanoseconds := duration.nanoseconds
  if 0 < duration.seconds then
    inUnit duration.seconds nanoseconds 9 "s"
  else if 1000000 ≤ nanoseconds then
    inUnit (nanoseconds / 1000000) (nanoseconds % 1000000) 6 "ms"
  else if 1000 ≤ nanoseconds then
    inUnit (nanoseconds / 1000) (nanoseconds % 1000) 3 "µs"
  else
    inUnit nanoseconds 0 0 "ns"

end Duration
end Switchboard
