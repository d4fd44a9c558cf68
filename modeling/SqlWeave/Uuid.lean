import SqlWeave.Text.Hex

/-!
# Universally unique identifiers

Numbers of 128 bits, written as hyphenated groups of lower-case hexadecimal
digits.
-/

namespace SqlWeave

/-- A universally unique identifier. -/
structure Uuid where
  bits : BitVec 128
  deriving DecidableEq, Repr

namespace Uuid

/-- The text without the marks that may stand around an identifier. -/
def unwrap (text : List Char) : List Char :=
  let marker := "urn:uuid:".toList
  let body := if marker.isPrefixOf text then text.drop marker.length else text
  body.filter fun c => c ≠ '\x7b' ∧ c ≠ '\x7d'

/-- Read an identifier; its groups may be separated by hyphens. -/
def read? (text : String) : Option Uuid :=
  (Text.hexValue? 32 ((unwrap text.toList).filter (· ≠ '-'))).map fun value =>
    ⟨BitVec.ofNat 128 value⟩

/-- Place a hyphen before each group but the first. -/
def grouped : List Nat → List Char → List Char
  | [], digits => digits
  | size :: sizes, digits => digits.take size ++ '-' :: grouped sizes (digits.drop size)

/-- The hyphenated text of an identifier. -/
def text (uuid : Uuid) : String :=
  String.ofList (grouped [8, 4, 4, 4] (Text.hexDigits 32 uuid.bits.toNat))

end Uuid

end SqlWeave
