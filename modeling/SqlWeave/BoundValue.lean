import SqlWeave.Json.Basic
import SqlWeave.Uuid

/-!
# Bound values

The values that are bound to placeholders.  They travel beside the statement
text and never inside it; the texts here are for diagnostics.
-/

namespace SqlWeave

/-- A value that can be bound. -/
inductive BoundValue where
  | integer (value : Int)
  | real (format : Decimal.BinaryFormat) (value : Decimal.Binary)
  | bool (value : Bool)
  | text (value : String)
  | bytes (values : List UInt8)
  | integers (values : List Int)
  | texts (values : List String)
  /-- A null for a column of any type. -/
  | null
  | optionalInteger (value : Option Int)
  | optionalText (value : Option String)
  | json (value : Json)
  | uuid (value : Uuid)

namespace BoundValue

/-- Bound numbers are written positionally from a ten-thousandth to below 10^16, and of two
equally near decimals the greater one is written. -/
def realLayout : Decimal.Layout := ⟨-4, 15, false, .greater⟩

/-- Items in brackets with a comma between each two. -/
def bracketed (items : List String) : String := "[" ++ ", ".intercalate items ++ "]"

def optional : Option String → String
  | none => "None"
  | some item => "Some(" ++ item ++ ")"

/-- The text of a value in diagnostics. -/
def describe : BoundValue → String
  | .integer value => toString value
  | .real format value => realLayout.text format value
  | .bool value => if value then "true" else "false"
  | .text value => Text.quoted value
  | .bytes values => bracketed (values.map fun byte => toString byte.toNat)
  | .integers values => bracketed (values.map toString)
  | .texts values => bracketed (values.map Text.quoted)
  | .null => "Null"
  | .optionalInteger value => optional (value.map toString)
  | .optionalText value => optional (value.map Text.quoted)
  | .json value => value.describe
  | .uuid value => value.text

/-- The text of a value that is bound as a parameter. -/
def describeParam (value : BoundValue) : String := "Param(" ++ value.describe ++ ")"

end BoundValue

/-- What is sent to a server for a value. -/
inductive Encoded where
  /-- A null, which has no content. -/
  | null
  | content (bytes : List UInt8)
  deriving DecidableEq, Repr

/-- The number of bytes of content. -/
def Encoded.size : Encoded → Nat
  | .null => 0
  | .content bytes => bytes.length

/-- The untyped null is accepted for a column of any type. -/
def encodeNull (_columnType : String) : Option Encoded := some .null

end SqlWeave
