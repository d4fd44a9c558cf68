import SqlWeave.Json.Fault

/-!
# Decoding JSON values

Readers that take a whole JSON value for a value of one type, or say why it is
none.
-/

namespace SqlWeave.Json

/-- A reader of values of one type. -/
abbrev Decoder (Result : Type) := Json → Except Fault Result

def integerWithin (low high : Int) (expected : String) : Decoder Int
  | .number (.integer value) =>
    if low ≤ value ∧ value ≤ high then .ok value else .error (.outOfRange value expected)
  | other => .error (.wrongKind other expected)

def int64 : Decoder Int := integerWithin (-9223372036854775808) 9223372036854775807 "i64"

def int32 : Decoder Int := integerWithin (-2147483648) 2147483647 "i32"

def text : Decoder String
  | .string value => .ok value
  | other => .error (.wrongKind other "a string")

def truth : Decoder Bool
  | .bool value => .ok value
  | other => .error (.wrongKind other "a boolean")

def nullable {Result : Type} (decode : Decoder Result) : Decoder (Option Result)
  | .null => .ok none
  | other => (decode other).map some

/-- Every item of an array. -/
def list {Result : Type} (decode : Decoder Result) : Decoder (List Result)
  | .array items => items.mapM decode
  | other => .error (.wrongKind other "a sequence")

/-- The item at a place of an array that stands for fields, which has to be there. -/
def item {Result : Type} (items : List Json) (place : Nat) (expected : String)
    (decode : Decoder Result) : Except Fault Result :=
  match items[place]? with
  | some value => decode value
  | none => .error (.tooFew items.length expected)

def field? (entries : List (String × Json)) (name : String) : Option Json :=
  entries.lookup name

/-- A field that has to be there. -/
def field {Result : Type} (entries : List (String × Json)) (name : String)
    (decode : Decoder Result) : Except Fault Result :=
  match field? entries name with
  | some value => decode value
  | none => .error (.missingField name)

def optionalField {Result : Type} (entries : List (String × Json)) (name : String)
    (decode : Decoder Result) : Except Fault (Option Result) :=
  match field? entries name with
  | some value => nullable decode value
  | none => .ok none

end SqlWeave.Json
