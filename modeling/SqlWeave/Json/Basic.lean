import SqlWeave.Decimal.Layout
import SqlWeave.KeyMap
import SqlWeave.Text.Quoted

/-!
# JSON values

Results come back as JSON values, and a value can also be bound.  Integers and
floating-point numbers are kept apart, and the keys of an object ascend.
-/

namespace SqlWeave

/-- A JSON number. -/
inductive Json.Number where
  | integer (value : Int)
  | real (value : Decimal.Binary)
  deriving DecidableEq, Repr

/-- A JSON value. -/
inductive Json where
  | null
  | bool (value : Bool)
  | number (value : Json.Number)
  | string (text : String)
  | array (items : List Json)
  /-- An object by its entries, in ascending order of their keys. -/
  | object (entries : List (String × Json))
  deriving Inhabited

namespace Json

def ofMap (map : KeyMap Json) : Json := .object map.toList

def ofInt (value : Int) : Json := .number (.integer value)

/-- JSON numbers are written positionally from a hundred-thousandth to below 10^16, and of two
equally near decimals the even one is written. -/
def numberLayout : Decimal.Layout := ⟨-5, 15, true, .even⟩

def Number.text : Number → String
  | .integer value => toString value
  | .real value => numberLayout.text .double value

mutual

/-- How many arrays and objects stand around the innermost part of a value. -/
def depth : Json → Nat
  | .array items => depthOfItems items + 1
  | .object entries => depthOfEntries entries + 1
  | _ => 0

def depthOfItems : List Json → Nat
  | [] => 0
  | item :: rest => max item.depth (depthOfItems rest)

def depthOfEntries : List (String × Json) → Nat
  | [] => 0
  | (_, value) :: rest => max value.depth (depthOfEntries rest)

end

mutual

/-- A value with the name of its kind, as it is shown in diagnostics. -/
def describe : Json → String
  | .null => "Null"
  | .bool value => "Bool(" ++ (if value then "true" else "false") ++ ")"
  | .number value => "Number(" ++ value.text ++ ")"
  | .string text => "String(" ++ Text.quoted text ++ ")"
  | .array items => "Array [" ++ describeItems "" items ++ "]"
  | .object entries => "Object \x7b" ++ describeEntries "" entries ++ "\x7d"

/-- Items with a comma between each two. -/
def describeItems (lead : String) : List Json → String
  | [] => ""
  | item :: rest => lead ++ item.describe ++ describeItems ", " rest

/-- Keyed values with a comma between each two. -/
def describeEntries (lead : String) : List (String × Json) → String
  | [] => ""
  | (key, value) :: rest =>
    lead ++ Text.quoted key ++ ": " ++ value.describe ++ describeEntries ", " rest

end

end Json

end SqlWeave
