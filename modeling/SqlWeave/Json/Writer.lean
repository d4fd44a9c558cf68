import SqlWeave.Json.Basic

/-!
# Writing JSON text

Values without blanks between their parts.  Quotes, backslashes and control
characters are escaped; a number that is not finite is written as null.
-/

namespace SqlWeave.Json

/-- A character as it stands in a JSON string. -/
def writeChar (c : Char) : String :=
  if c = '"' then "\\\""
  else if c = '\\' then "\\\\"
  else if c.toNat < 0x20 then "\\u" ++ String.ofList (Text.hexDigits 4 c.toNat)
  else c.toString

def writeString (text : String) : String :=
  "\"" ++ String.join (text.toList.map writeChar) ++ "\""

def Number.write : Number → String
  | .real .nan | .real (.infinity _) => "null"
  | finite => finite.text

mutual

def write : Json → String
  | .null => "null"
  | .bool value => if value then "true" else "false"
  | .number value => value.write
  | .string text => writeString text
  | .array items => "[" ++ writeItems "" items ++ "]"
  | .object entries => "\x7b" ++ writeEntries "" entries ++ "\x7d"

/-- Items with a comma between each two. -/
def writeItems (lead : String) : List Json → String
  | [] => ""
  | item :: rest => lead ++ item.write ++ writeItems "," rest

/-- Keyed values with a comma between each two. -/
def writeEntries (lead : String) : List (String × Json) → String
  | [] => ""
  | (key, value) :: rest =>
    lead ++ writeString key ++ ":" ++ value.write ++ writeEntries "," rest

end

end SqlWeave.Json
