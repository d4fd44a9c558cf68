import SqlWeave.Decimal.Binary

/-!
# Decimal literals

Reading a floating-point number from text: an optional sign, then digits with
at most one point among them and an optional exponent, or one of the names of
the values that are no numbers.
-/

namespace SqlWeave.Decimal

/-- A decimal as it is written: the digits before and after the point, and the exponent. -/
structure Literal where
  negative : Bool
  whole : List Nat
  fraction : List Nat
  exponent : Int
  deriving DecidableEq, Repr

namespace Literal

def digitValue (digit : Char) : Nat := digit.toNat - '0'.toNat

def digitsValue (digits : List Nat) : Nat :=
  digits.foldl (fun value digit => 10 * value + digit) 0

/-- The digits of a literal without the point. -/
def coefficient (literal : Literal) : Nat := digitsValue (literal.whole ++ literal.fraction)

/-- The power of ten that the coefficient counts. -/
def power (literal : Literal) : Int := literal.exponent - literal.fraction.length

/-- Split an optional sign off: whether it is a minus, and the rest. -/
def sign : List Char → Bool × List Char
  | '-' :: rest => (true, rest)
  | '+' :: rest => (false, rest)
  | text => (false, text)

/-- The exponent that the whole rest of a literal has to be. -/
def exponent? : List Char → Option Int
  | [] => some 0
  | mark :: rest =>
    let (negative, digits) := sign rest
    if (mark = 'e' ∨ mark = 'E') ∧ digits ≠ [] ∧ digits.all Char.isDigit then
      let value : Int := digitsValue (digits.map digitValue)
      some (if negative then -value else value)
    else none

/-- The digits before and after the point, and what follows them. -/
def split (text : List Char) : List Char × List Char × List Char :=
  let whole := text.takeWhile Char.isDigit
  match text.dropWhile Char.isDigit with
  | '.' :: rest => (whole, rest.takeWhile Char.isDigit, rest.dropWhile Char.isDigit)
  | rest => (whole, [], rest)

/-- The decimal that a text denotes, if it has a digit before or after its point. -/
def ofChars? (text : List Char) : Option Literal :=
  let (negative, unsigned) := sign text
  let (whole, fraction, rest) := split unsigned
  if whole = [] ∧ fraction = [] then none
  else (exponent? rest).map fun exponent =>
    { negative, whole := whole.map digitValue, fraction := fraction.map digitValue, exponent }

/-- The number of a format that is nearest to a literal. -/
def toBinary (format : BinaryFormat) (literal : Literal) : Binary :=
  format.ofDecimal literal.negative literal.coefficient literal.power

end Literal

/-- The floating-point number that a text denotes; names are read in any case. -/
def BinaryFormat.read? (format : BinaryFormat) (text : String) : Option Binary :=
  let (negative, unsigned) := Literal.sign text.toList
  match String.ofList (unsigned.map Char.toLower) with
  | "nan" => some .nan
  | "inf" | "infinity" => some (.infinity negative)
  | _ => (Literal.ofChars? text.toList).map (Literal.toBinary format)

end SqlWeave.Decimal
