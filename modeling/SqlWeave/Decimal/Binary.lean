/-!
# Binary floating-point numbers

A number is a sign and a significand times a power of two, and a format says
how many bits the significand has and how far the exponents reach.  Rounding a
ratio to a format is exact integer arithmetic: to the nearest number, and to
the even significand from halfway.
-/

namespace SqlWeave.Decimal

/-- The reach of a family of binary floating-point numbers. -/
structure BinaryFormat where
  /-- The number of bits of a significand. -/
  precision : Nat
  /-- The exponent of the least positive number, whose significand is one. -/
  least : Int
  /-- The exponent of the greatest number, whose significand is all ones. -/
  greatest : Int
  deriving DecidableEq, Repr

namespace BinaryFormat

/-- Numbers of 64 bits. -/
def double : BinaryFormat := ⟨53, -1074, 971⟩

/-- Numbers of 32 bits. -/
def single : BinaryFormat := ⟨24, -149, 104⟩

end BinaryFormat

/-- A floating-point number: `significand * 2 ^ exponent`, or a value that is no number. -/
inductive Binary where
  | nan
  | infinity (negative : Bool)
  | finite (negative : Bool) (significand : Nat) (exponent : Int)
  deriving DecidableEq, Repr, Inhabited

/-- A base to the power of an exponent, which counts as zero when it is negative: of a
number and its negation, one gives the factor of a numerator and the other that of a
denominator. -/
def power (base : Nat) (exponent : Int) : Nat := Nat.pow base exponent.toNat

/-- The least significand of full length. -/
def BinaryFormat.leastFull (format : BinaryFormat) : Nat := Nat.pow 2 (format.precision - 1)

/-- Which of two neighbours is taken for a value halfway between them. -/
inductive Halfway where
  | greater
  | even
  deriving DecidableEq, Repr

def roundQuotient (halfway : Halfway) (numerator denominator : Nat) : Nat :=
  let quotient := numerator / denominator
  let remainder := numerator % denominator
  if 2 * remainder < denominator then quotient
  else if denominator < 2 * remainder then quotient + 1
  else match halfway with
    | .greater => quotient + 1
    | .even => quotient + quotient % 2

/-- The exponent of the greatest power of two that is at most a positive ratio. -/
def binaryMagnitude (numerator denominator : Nat) : Int :=
  let scale : Int := (numerator.log2 : Int) - (denominator.log2 : Int)
  if denominator * power 2 scale ≤ numerator * power 2 (-scale) then scale else scale - 1

namespace BinaryFormat

/-- The number of a format that is nearest to a ratio. -/
def ofRatio (format : BinaryFormat) (negative : Bool) (numerator denominator : Nat) : Binary :=
  if numerator = 0 then .finite negative 0 format.least
  else
    let magnitude := binaryMagnitude numerator denominator
    let exponent := max format.least (magnitude - (format.precision - 1 : Nat))
    let rounded :=
      roundQuotient .even (numerator * power 2 (-exponent)) (denominator * power 2 exponent)
    let (significand, exponent) :=
      if rounded = 2 * format.leastFull then (format.leastFull, exponent + 1)
      else (rounded, exponent)
    if format.greatest < exponent then .infinity negative
    else .finite negative significand exponent

/-- Decimal places beyond which every number of 64 bits or less is zero or infinite. -/
def decimalReach : Int := 400

/-- The number of a format that is nearest to `coefficient * 10 ^ exponent`. -/
def ofDecimal (format : BinaryFormat) (negative : Bool) (coefficient : Nat) (exponent : Int) :
    Binary :=
  let magnitude := ((Nat.toDigits 10 coefficient).length : Int) + exponent
  if coefficient = 0 ∨ magnitude < -decimalReach then .finite negative 0 format.least
  else if decimalReach < magnitude then .infinity negative
  else format.ofRatio negative (coefficient * power 10 exponent) (power 10 (-exponent))

end BinaryFormat

end SqlWeave.Decimal
