import SqlWeave.Json.Decode

/-!
# Authors

The typed result that rehearsals read rows as: a structure with an optional
field, written either as an object or as an array of its fields.
-/

namespace SqlWeave.Rehearsal

open Json (Decoder Fault)

/-- An author of books. -/
structure Author where
  id : Int
  name : String
  isLiving : Option Bool
  deriving DecidableEq, Repr

namespace Author

/-- An author from the entries of an object; further entries are ignored. -/
def ofEntries (entries : List (String × Json)) : Except Fault Author := do
  let id ← (Json.field? entries "id").mapM Json.int32
  let isLiving ← Json.optionalField entries "isLiving" Json.truth
  let name ← (Json.field? entries "name").mapM Json.text
  match id, name with
  | none, _ => throw (.missingField "id")
  | _, none => throw (.missingField "name")
  | some id, some name => return { id, name, isLiving }

/-- What an array of the fields of an author is expected to be. -/
def expectedItems : String := "struct Author with 3 elements"

/-- An author from exactly as many items as it has fields; they are read before they are counted. -/
def ofItems (items : List Json) : Except Fault Author := do
  let id ← Json.item items 0 expectedItems Json.int32
  let name ← Json.item items 1 expectedItems Json.text
  let isLiving ← Json.item items 2 expectedItems (Json.nullable Json.truth)
  if 3 < items.length then throw (.tooMany items.length)
  return { id, name, isLiving }

def decode : Decoder Author
  | .object entries => ofEntries entries
  | .array items => ofItems items
  | other => .error (.wrongKind other "struct Author")

def toJson (author : Author) : Json :=
  .ofMap (.ofList [("id", .ofInt author.id), ("name", .string author.name),
    ("isLiving", (author.isLiving.map Json.bool).getD .null)])

end Author

/-- The types that a result can be read as. -/
inductive ResultType where
  | value
  | int64
  | text
  | truth
  | author
  | optionalAuthor
  | authors
  deriving DecidableEq, Repr

/-- Read a result as a value of a type, and write that value as JSON again. -/
def ResultType.decode (type : ResultType) : Decoder Json := fun value =>
  match type with
  | .value => .ok value
  | .int64 => (Json.int64 value).map Json.ofInt
  | .text => (Json.text value).map Json.string
  | .truth => (Json.truth value).map Json.bool
  | .author => (Author.decode value).map Author.toJson
  | .optionalAuthor =>
    (Json.nullable Author.decode value).map fun author => (author.map Author.toJson).getD .null
  | .authors => (Json.list Author.decode value).map fun authors => .array (authors.map Author.toJson)

end SqlWeave.Rehearsal
