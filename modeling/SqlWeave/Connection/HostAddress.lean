import SqlWeave.Text.Hex

/-!
# Host addresses

Which texts denote an address of a host by number: four decimal bytes, or
eight hexadecimal groups of which one run may be left out and the last two may
be written as decimal bytes.
-/

namespace SqlWeave.Connection

/-- Whether a text is a byte in decimal, without a leading zero. -/
def isDecimalByte (text : List Char) : Bool :=
  match text with
  | [] => false
  | ['0'] => true
  | '0' :: _ => false
  | digits =>
    digits.all Char.isDigit && digits.length ≤ 3 &&
      digits.foldl (fun value c => 10 * value + (c.toNat - '0'.toNat)) 0 ≤ 255

/-- The parts of a text between the occurrences of a character. -/
def splitAtEvery (separator : Char) : List Char → List (List Char)
  | [] => [[]]
  | c :: rest =>
    let parts := splitAtEvery separator rest
    if c = separator then [] :: parts
    else match parts with
      | part :: others => (c :: part) :: others
      | [] => [[c]]

def isFourBytes (text : List Char) : Bool :=
  let parts := splitAtEvery '.' text
  parts.length = 4 && parts.all isDecimalByte

def isHexGroup (text : List Char) : Bool :=
  text.length ≤ 4 && (Text.hexValue? text.length text).isSome && !text.isEmpty

/-- How many groups a list of parts stands for, if each part is one; the last
may be four bytes, which stand for two groups, where that is allowed. -/
def groupCount? (allowBytes : Bool) : List (List Char) → Option Nat
  | [] => some 0
  | [part] =>
    if isHexGroup part then some 1
    else if allowBytes && isFourBytes part then some 2
    else none
  | part :: rest => if isHexGroup part then (groupCount? allowBytes rest).map (· + 1) else none

/-- The parts of a side of an omitted run; a side may be empty. -/
def sideParts (text : List Char) : List (List Char) :=
  if text.isEmpty then [] else splitAtEvery ':' text

/-- Split a text at the first omitted run of groups. -/
def splitOmission : List Char → Option (List Char × List Char)
  | [] => none
  | ':' :: ':' :: rest => some ([], rest)
  | c :: rest => (splitOmission rest).map fun (before, after) => (c :: before, after)

/-- Whether a text is an address of eight groups. -/
def isEightGroups (text : List Char) : Bool :=
  match splitOmission text with
  | none => groupCount? true (splitAtEvery ':' text) = some 8
  | some (before, after) =>
    match groupCount? false (sideParts before), groupCount? true (sideParts after) with
    | some left, some right => left + right < 8
    | _, _ => false

def isHostAddress (text : List Char) : Bool := isFourBytes text || isEightGroups text

end SqlWeave.Connection
