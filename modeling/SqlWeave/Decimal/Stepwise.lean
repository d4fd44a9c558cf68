import SqlWeave.Decimal.Literal

/-!
# Reading decimals in steps

The quick way to a floating-point number: the digits that fit a word of 64 bits
make up a significand, which is rounded, and is then multiplied or divided by a
power of ten that is rounded as well.  Every step rounds to nearest, so the
result is close to the decimal but not always the nearest number to it.
-/

namespace SqlWeave.Decimal

/-- A number that is not negative, as a fraction. -/
structure Fraction where
  numerator : Nat
  denominator : Nat
  deriving DecidableEq, Repr

namespace Fraction

def ofNat (value : Nat) : Fraction := ⟨value, 1⟩

def times (left right : Fraction) : Fraction :=
  ⟨left.numerator * right.numerator, left.denominator * right.denominator⟩

def dividedBy (left right : Fraction) : Fraction :=
  ⟨left.numerator * right.denominator, left.denominator * right.numerator⟩

end Fraction

/-- The size of a finite number. -/
def Binary.size? : Binary → Option Fraction
  | .finite _ significand exponent => some ⟨significand * power 2 exponent, power 2 (-exponent)⟩
  | _ => none

namespace BinaryFormat

/-- The number of a format that is nearest to a fraction, if the format reaches that far. -/
def round? (format : BinaryFormat) (value : Fraction) : Option Fraction :=
  (format.ofRatio false value.numerator value.denominator).size?

/-- The greatest exponent of a power of ten by which numbers are scaled. -/
def greatestScale : Nat := 308

/-- A number times or over a power of ten within reach, both rounded. -/
def scaleOnce? (format : BinaryFormat) (value : Fraction) (exponent : Int) : Option Fraction := do
  let scale ← format.round? (.ofNat (Nat.pow 10 exponent.natAbs))
  format.round? (if 0 ≤ exponent then value.times scale else value.dividedBy scale)

/-- A number times a power of ten, which is divided out in parts where it is beyond reach. -/
def scale? (format : BinaryFormat) (value : Fraction) (exponent : Int) : Option Fraction :=
  if exponent.natAbs ≤ greatestScale then format.scaleOnce? value exponent
  else if value.numerator = 0 then some value
  else if 0 ≤ exponent then none
  else do
    let value ← format.scaleOnce? value (-greatestScale)
    scale? format value (exponent + greatestScale)
termination_by exponent.natAbs
decreasing_by
  simp only [greatestScale] at *
  omega

end BinaryFormat

namespace Literal

/-- The greatest significand that is kept. -/
def greatestSignificand : Nat := 18446744073709551615

/-- A significand with as many further digits as it may have, and the digits that are left. -/
def extend : Nat → List Nat → Nat × List Nat
  | significand, [] => (significand, [])
  | significand, digit :: rest =>
    if 10 * significand + digit ≤ greatestSignificand then extend (10 * significand + digit) rest
    else (significand, digit :: rest)

/-- The significand that is kept of a literal, and the power of ten that it counts. -/
def kept (literal : Literal) : Nat × Int :=
  let (significand, wholeLeft) := extend 0 literal.whole
  let (significand, fractionLeft) := extend significand literal.fraction
  (significand,
    literal.exponent + wholeLeft.length + fractionLeft.length - literal.fraction.length)

/-- The number of a format that a literal is read as in steps, unless it is too great. -/
def toBinaryStepwise? (format : BinaryFormat) (literal : Literal) : Option Binary := do
  let (significand, exponent) := literal.kept
  let value ← format.scale? (← format.round? (.ofNat significand)) exponent
  return format.ofRatio literal.negative value.numerator value.denominator

end Literal

end SqlWeave.Decimal
