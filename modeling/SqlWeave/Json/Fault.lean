import SqlWeave.Json.Basic

/-!
# Faults of JSON decoding

Why a JSON value is not a value of the type that was asked for.  The wording
of the faults that the decoders here find is here as well; a decoder of another
type words its own.
-/

namespace SqlWeave.Json

/-- Why a JSON value does not decode. -/
inductive Fault where
  /-- The value is of another kind. -/
  | wrongKind (found : Json) (expected : String)
  /-- The integer does not fit. -/
  | outOfRange (found : Int) (expected : String)
  /-- An object lacks a field. -/
  | missingField (name : String)
  /-- An array has fewer items than the fields it stands for. -/
  | tooFew (found : Nat) (expected : String)
  /-- An array has more items than the fields it stands for. -/
  | tooMany (found : Nat)
  /-- The text of an object ends before its closing brace. -/
  | unfinishedObject (line column : Nat)
  /-- Whatever else a decoder objects to, in its own words. -/
  | other (message : String)

/-- A value as it is named in a fault. -/
def nameKind : Json → String
  | .null => "null"
  | .bool value => "boolean \x60" ++ (if value then "true" else "false") ++ "\x60"
  | .number (.integer value) => "integer \x60" ++ toString value ++ "\x60"
  | .number (.real value) => "floating point \x60" ++ (Number.real value).text ++ "\x60"
  | .string text => "string " ++ Text.quoted text
  | .array _ => "sequence"
  | .object _ => "map"

def Fault.message : Fault → String
  | .wrongKind found expected => "invalid type: " ++ nameKind found ++ ", expected " ++ expected
  | .outOfRange found expected =>
    "invalid value: " ++ nameKind (ofInt found) ++ ", expected " ++ expected
  | .missingField name => "missing field \x60" ++ name ++ "\x60"
  | .tooFew found expected => "invalid length " ++ toString found ++ ", expected " ++ expected
  | .tooMany found =>
    "invalid length " ++ toString found ++ ", expected fewer elements in array"
  | .unfinishedObject line column =>
    "EOF while parsing an object at line " ++ toString line ++ " column " ++ toString column
  | .other message => message

end SqlWeave.Json
