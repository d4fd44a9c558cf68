import SqlWeave.Text.Extender
import SqlWeave.Text.Hex
import SqlWeave.Text.Unprintable

/-!
# Quoted text

Text between double quotes in which every character can be told apart: quotes
and backslashes are escaped, the common control characters have short names,
and whatever cannot be seen is written as its code point.
-/

namespace SqlWeave.Text

/-- A character as it stands between quotes. -/
def escape (c : Char) : String :=
  match c with
  | '"' => "\\\""
  | '\\' => "\\\\"
  | '\t' => "\\t"
  | '\r' => "\\r"
  | '\n' => "\\n"
  | '\x00' => "\\0"
  | c =>
    if isUnprintable c || isExtender c then "\\u\x7b" ++ String.ofList (hexDigits 1 c.toNat) ++ "\x7d"
    else c.toString

def quoted (text : String) : String :=
  "\"" ++ String.join (text.toList.map escape) ++ "\""

end SqlWeave.Text
