import SqlWeave.Decimal.Shortest

/-!
# Layout of decimals

Where a number's shortest digits are written positionally and where with an
exponent, is a decision of the output that the number stands in.
-/

namespace SqlWeave.Decimal

/-- The decisions of an output about how its numbers are written. -/
structure Layout where
  /-- The least decimal exponent that is written positionally. -/
  least : Int
  /-- The greatest decimal exponent that is written positionally. -/
  greatest : Int
  /-- Whether an exponent that is not negative has a plus sign. -/
  plusSign : Bool
  /-- Which of two equally near decimals is written. -/
  halfway : Halfway
  deriving DecidableEq, Repr

namespace Layout

def zeros (count : Nat) : String := String.ofList (List.replicate count '0')

/-- Digits with the decimal point in its place and at least one digit on each side of it. -/
def positional (digits : Digits) : String :=
  let text := Nat.toDigits 10 digits.coefficient
  let whole := (text.length : Int) + digits.power
  if 0 ≤ digits.power then String.ofList text ++ zeros digits.power.toNat ++ ".0"
  else if 0 < whole then
    String.ofList (text.take whole.toNat) ++ "." ++ String.ofList (text.drop whole.toNat)
  else "0." ++ zeros (-whole).toNat ++ String.ofList text

/-- Digits with the point after the first of them, and the exponent. -/
def scientific (layout : Layout) (digits : Digits) (exponent : Int) : String :=
  let sign := if layout.plusSign && decide (0 ≤ exponent) then "+" else ""
  let fraction := match Nat.toDigits 10 digits.coefficient with
    | [] => ""
    | [digit] => digit.toString
    | digit :: rest => digit.toString ++ "." ++ String.ofList rest
  fraction ++ "e" ++ sign ++ toString exponent

/-- The digits of a positive number, positional or with an exponent. -/
def digits (layout : Layout) (digits : Digits) : String :=
  let exponent := digits.power + (Nat.toDigits 10 digits.coefficient).length - 1
  if layout.least ≤ exponent ∧ exponent ≤ layout.greatest then positional digits
  else layout.scientific digits exponent

def text (layout : Layout) (format : BinaryFormat) : Binary → String
  | .nan => "NaN"
  | .infinity negative => (if negative then "-" else "") ++ "inf"
  | .finite negative significand exponent =>
    (if negative then "-" else "") ++
      if significand = 0 then "0.0"
      else layout.digits (format.shortest layout.halfway significand exponent)

end Layout

end SqlWeave.Decimal
