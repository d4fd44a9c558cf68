import SqlWeave.Decimal.Binary

/-!
# Shortest decimals

The fewest decimal digits that read back to a floating-point number, and of
those the nearest to it.  A decimal reads back when it lies in the interval of
reals that round to the number; the interval contains its ends exactly when
the significand is even.
-/

namespace SqlWeave.Decimal

/-- A positive decimal, `coefficient * 10 ^ power`. -/
structure Digits where
  coefficient : Nat
  power : Int
  deriving DecidableEq, Repr

/-- The reals that round to a number, as numerators over one denominator. -/
structure Interval where
  low : Nat
  middle : Nat
  high : Nat
  denominator : Nat
  /-- Whether the ends belong to the interval. -/
  closed : Bool

/-- The interval around `significand * 2 ^ exponent`.

Below the least significand of an exponent the numbers are twice as dense, so
the lower half of the interval is half as long there. -/
def BinaryFormat.interval (format : BinaryFormat) (significand : Nat) (exponent : Int) :
    Interval :=
  let factor := power 2 (exponent - 2)
  let narrow := significand = format.leastFull ∧ format.least < exponent
  { low := (4 * significand - if narrow then 1 else 2) * factor
    middle := 4 * significand * factor
    high := (4 * significand + 2) * factor
    denominator := power 2 (2 - exponent)
    closed := significand % 2 = 0 }

namespace Interval

/-- Whether `coefficient * 10 ^ exponent` lies in the interval. -/
def contains (interval : Interval) (coefficient : Nat) (exponent : Int) : Bool :=
  let scale := power 10 (-exponent)
  let value := coefficient * interval.denominator * power 10 exponent
  if interval.closed then
    interval.low * scale ≤ value && value ≤ interval.high * scale
  else
    interval.low * scale < value && value < interval.high * scale

/-- The exponent of the greatest power of ten that is at most the middle. -/
def magnitude (interval : Interval) : Int :=
  let { middle, denominator, .. } := interval
  if denominator ≤ middle then ((Nat.toDigits 10 (middle / denominator)).length : Int) - 1
  else -((Nat.toDigits 10 ((denominator - 1) / middle)).length : Int)

/-- Of the two neighbours of the middle on the grid of a power of ten, the one in
the interval, or the nearer of both. -/
def onGrid (interval : Interval) (halfway : Halfway) (exponent : Int) : Option Nat :=
  let numerator := interval.middle * power 10 (-exponent)
  let denominator := interval.denominator * power 10 exponent
  let below := numerator / denominator
  let above := below + 1
  match interval.contains below exponent, interval.contains above exponent with
  | true, true => some (roundQuotient halfway numerator denominator)
  | true, false => some below
  | false, true => some above
  | false, false => none

/-- The first grid, from coarse to fine, that has a point in the interval. -/
def search (interval : Interval) (halfway : Halfway) : Nat → Int → Digits
  | 0, exponent =>
    ⟨interval.middle * power 10 (-exponent) / (interval.denominator * power 10 exponent), exponent⟩
  | finer + 1, exponent =>
    match interval.onGrid halfway exponent with
    | some coefficient => ⟨coefficient, exponent⟩
    | none => search interval halfway finer (exponent - 1)

end Interval

/-- Drop the zeros at the end of a coefficient, of which there are at most `bound`. -/
def Digits.stripZeros : Nat → Digits → Digits
  | 0, digits => digits
  | bound + 1, digits =>
    if digits.coefficient % 10 = 0 then
      stripZeros bound ⟨digits.coefficient / 10, digits.power + 1⟩
    else digits

/-- The most digits that a number of 64 bits or less needs to read back. -/
def mostDigits : Nat := 17

/-- The fewest digits that read back to a positive number, and of those the nearest. -/
def BinaryFormat.shortest (format : BinaryFormat) (halfway : Halfway) (significand : Nat)
    (exponent : Int) : Digits :=
  let interval := format.interval significand exponent
  (interval.search halfway mostDigits interval.magnitude).stripZeros mostDigits

end SqlWeave.Decimal
