/-!
# Hexadecimal digits

Numbers in base sixteen: written in lower case, read in either case.
-/

namespace SqlWeave.Text

/-- The digits of a number, padded with zeros to at least so many. -/
def hexDigits (width number : Nat) : List Char :=
  let digits := Nat.toDigits 16 number
  List.replicate (width - digits.length) '0' ++ digits

def hexDigit? (c : Char) : Option Nat :=
  if '0' ≤ c ∧ c ≤ '9' then some (c.toNat - '0'.toNat)
  else if 'a' ≤ c ∧ c ≤ 'f' then some (c.toNat - 'a'.toNat + 10)
  else if 'A' ≤ c ∧ c ≤ 'F' then some (c.toNat - 'A'.toNat + 10)
  else none

/-- The value of a list of digits, if there are exactly so many. -/
def hexValue? (width : Nat) (digits : List Char) : Option Nat :=
  if digits.length = width then
    digits.foldlM (fun value c => (hexDigit? c).map (16 * value + ·)) 0
  else none

end SqlWeave.Text
