import SqlWeave.Decimal.Stepwise
import SqlWeave.Json.Basic

/-!
# Reading JSON text

A value is read from the front of a text and comes with what follows it.  A
key that an object repeats keeps its last value.  Whole numbers within 64 bits
stay integers; every other number is read in steps as a floating-point number.
-/

namespace SqlWeave.Json

/-- The text after blanks and line ends. -/
def skipBlanks (text : List Char) : List Char :=
  text.dropWhile fun c => c = ' ' ∨ c = '\n' ∨ c = '\t' ∨ c = '\r'

/-- The text after a word, if it starts with the word. -/
def afterWord? (word : String) (text : List Char) : Option (List Char) :=
  if word.toList.isPrefixOf text then some (text.drop word.length) else none

/-- The code unit of four hexadecimal digits, and the text after them. -/
def codeUnit? (text : List Char) : Option (Nat × List Char) :=
  (Text.hexValue? 4 (text.take 4)).map fun unit => (unit, text.drop 4)

/-- Whether a code unit is the first half of a pair. -/
def isHighSurrogate (unit : Nat) : Bool := 0xd800 ≤ unit && unit < 0xdc00

def isLowSurrogate (unit : Nat) : Bool := 0xdc00 ≤ unit && unit < 0xe000

/-- The code point that two halves of a pair stand for. -/
def surrogatePair (high low : Nat) : Nat :=
  0x10000 + (high - 0xd800) * 0x400 + (low - 0xdc00)

/-- The character of an escape by code units, and the text after it.  Half of a
pair is no character, neither alone nor before anything but the other half. -/
def unicodeEscape? (text : List Char) : Option (Char × List Char) := do
  let (unit, rest) ← codeUnit? text
  if isHighSurrogate unit then
    let (low, rest) ← codeUnit? (← afterWord? "\\u" rest)
    if isLowSurrogate low then return (Char.ofNat (surrogatePair unit low), rest) else none
  else if isLowSurrogate unit then none
  else return (Char.ofNat unit, rest)

/-- The character that a one-letter escape stands for. -/
def shortEscape? : Char → Option Char
  | '"' => some '"'
  | '\\' => some '\\'
  | '/' => some '/'
  | 'b' => some '\x08'
  | 'f' => some '\x0c'
  | 'n' => some '\n'
  | 'r' => some '\r'
  | 't' => some '\t'
  | _ => none

/-- Whether a character has to be escaped wherever it stands in a string. -/
def isControl (c : Char) : Bool := c < ' '

/-- The characters up to the closing quote, and the text after it. -/
def characters? : Nat → List Char → Option (List Char × List Char)
  | 0, _ | _, [] => none
  | _, '"' :: rest => some ([], rest)
  | fuel + 1, '\\' :: 'u' :: rest => do
    let (c, rest) ← unicodeEscape? rest
    let (cs, rest) ← characters? fuel rest
    return (c :: cs, rest)
  | fuel + 1, '\\' :: letter :: rest => do
    let c ← shortEscape? letter
    let (cs, rest) ← characters? fuel rest
    return (c :: cs, rest)
  | fuel + 1, c :: rest => do
    let (cs, rest) ← characters? fuel rest
    if isControl c then none else return (c :: cs, rest)

/-- Whether a whole number is kept as an integer: those of 64 bits are, with or without a sign. -/
def isWord (value : Int) : Bool :=
  -9223372036854775808 ≤ value && value ≤ 18446744073709551615

/-- Whether a literal is written as a JSON number is: it has digits in front of
its point and behind it, no sign but a minus, and no zero before another digit. -/
def isNumberLiteral (text : List Char) : Bool :=
  let unsigned := if text.head? = some '-' then text.tail else text
  let whole := match unsigned.takeWhile Char.isDigit with
    | [] | '0' :: _ :: _ => false
    | _ => true
  let fraction := match unsigned.dropWhile Char.isDigit with
    | '.' :: rest => rest.head?.any Char.isDigit
    | _ => true
  whole && fraction

def Number.ofChars? (text : List Char) : Option Number := do
  guard (isNumberLiteral text)
  let literal ← Decimal.Literal.ofChars? text
  let whole : Int := if literal.negative then -literal.coefficient else literal.coefficient
  let isZeroWithSign := literal.negative && literal.coefficient = 0
  if text.all (fun c => c.isDigit || c = '-') && isWord whole && !isZeroWithSign then
    return .integer whole
  else return .real (← literal.toBinaryStepwise? .double)

/-- The number at the front of a text, and the text after it. -/
def number? (text : List Char) : Option (Json × List Char) :=
  let isPart (c : Char) : Bool := c.isDigit || ['-', '+', '.', 'e', 'E'].contains c
  (Number.ofChars? (text.takeWhile isPart)).map fun number =>
    (.number number, text.dropWhile isPart)

/-- A key and its colon, and the text after them. -/
def key? (text : List Char) : Option (String × List Char) := do
  let (key, rest) ← characters? (text.length + 1) (← afterWord? "\"" (skipBlanks text))
  return (String.ofList key, ← afterWord? ":" (skipBlanks rest))

mutual

/-- The value at the front of a text, and the text after it. -/
def value? : Nat → List Char → Option (Json × List Char)
  | 0, _ => none
  | fuel + 1, text =>
    match skipBlanks text with
    | '"' :: rest => do
      let (cs, rest) ← characters? (rest.length + 1) rest
      return (.string (String.ofList cs), rest)
    | '[' :: rest =>
      match afterWord? "]" (skipBlanks rest) with
      | some rest => some (.array [], rest)
      | none => do
        let (items, rest) ← items? fuel rest
        return (.array items, rest)
    | '\x7b' :: rest =>
      match afterWord? "\x7d" (skipBlanks rest) with
      | some rest => some (.object [], rest)
      | none => do
        let (entries, rest) ← entries? fuel ∅ rest
        return (.ofMap entries, rest)
    | text =>
      ((afterWord? "null" text).map (.null, ·)) <|>
        ((afterWord? "true" text).map (.bool true, ·)) <|>
        ((afterWord? "false" text).map (.bool false, ·)) <|>
        number? text

/-- Values up to the closing bracket, and the text after it. -/
def items? : Nat → List Char → Option (List Json × List Char)
  | 0, _ => none
  | fuel + 1, text => do
    let (item, rest) ← value? fuel text
    match skipBlanks rest with
    | ',' :: rest =>
      let (items, rest) ← items? fuel rest
      return (item :: items, rest)
    | ']' :: rest => return ([item], rest)
    | _ => none

/-- Keyed values up to the closing brace, added to those before, and the text after it. -/
def entries? : Nat → KeyMap Json → List Char → Option (KeyMap Json × List Char)
  | 0, _, _ => none
  | fuel + 1, entries, text => do
    let (key, rest) ← key? text
    let (value, rest) ← value? fuel rest
    match skipBlanks rest with
    | ',' :: rest => entries? fuel (entries.insert key value) rest
    | '\x7d' :: rest => return (entries.insert key value, rest)
    | _ => none

end

/-- The value that a whole text denotes. -/
def read? (text : String) : Option Json := do
  let cs := text.toList
  let (value, rest) ← value? (2 * cs.length + 2) cs
  if (skipBlanks rest).isEmpty then return value else none

end SqlWeave.Json
