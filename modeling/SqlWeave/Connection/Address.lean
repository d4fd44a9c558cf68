import SqlWeave.Connection.HostAddress
import SqlWeave.Text.Blank

/-!
# Connection strings

A connection string lists the parameters of a connection, either as keywords
with values or as a URL with the scheme of a server.  Both forms are read into
the same list of parameters, and a connection string is valid when every
parameter is known and its value fits.
-/

namespace SqlWeave.Connection

/-- A parameter of a connection. -/
inductive Parameter where
  /-- A keyword and its value, as they are written. -/
  | setting (keyword value : String)
  /-- The directory of a local socket, which may be any bytes. -/
  | socket (path : List UInt8)
  deriving DecidableEq, Repr

/-- Whether a text is a number with an optional plus sign, at most the given one. -/
def isCount (greatest : Nat) (text : List Char) : Bool :=
  let digits := match text with
    | '+' :: rest => rest
    | text => text
  !digits.isEmpty && digits.all Char.isDigit &&
    digits.foldl (fun value c => 10 * value + (c.toNat - '0'.toNat)) 0 ≤ greatest

def isInteger : List Char → Bool
  | '-' :: '+' :: _ => false
  | '-' :: digits => isCount 9223372036854775808 digits
  | text => isCount 9223372036854775807 text

/-- Whether a text is a port, or empty for the usual one. -/
def isPort (text : List Char) : Bool := text.isEmpty || isCount 65535 text

/-- Whether a value fits a keyword; no other keyword is known. -/
def isValidSetting (keyword value : String) : Bool :=
  let text := value.toList
  match keyword with
  | "user" | "password" | "dbname" | "options" | "application_name" | "host" => true
  | "sslmode" => ["disable", "prefer", "require"].contains value
  | "sslnegotiation" => ["postgres", "direct"].contains value
  | "hostaddr" => (splitAtEvery ',' text).all isHostAddress
  | "port" => (splitAtEvery ',' text).all isPort
  | "connect_timeout" | "tcp_user_timeout" | "keepalives_idle" | "keepalives_interval" =>
    isInteger text
  | "keepalives" => isCount 18446744073709551615 text
  | "keepalives_retries" => isCount 4294967295 text
  | "target_session_attrs" => ["any", "read-write", "read-only"].contains value
  | "channel_binding" => ["disable", "prefer", "require"].contains value
  | "load_balance_hosts" => ["disable", "random"].contains value
  | _ => false

/-- Whether a parameter is known and its value fits. -/
def Parameter.isValid : Parameter → Bool
  | .setting keyword value => isValidSetting keyword value
  | .socket _ => true

namespace Keywords

/-- The text after its leading blanks. -/
def skipBlanks (text : List Char) : List Char := text.dropWhile Text.isBlank

/-- A value without quotes: up to a blank, where a backslash keeps the next character. -/
def bareValue : List Char → List Char × List Char
  | [] => ([], [])
  | ['\\'] => ([], [])
  | '\\' :: c :: rest =>
    let (value, after) := bareValue rest
    (c :: value, after)
  | c :: rest =>
    if Text.isBlank c then ([], c :: rest)
    else
      let (value, after) := bareValue rest
      (c :: value, after)

/-- A value up to its closing quote, where a backslash keeps the next character. -/
def quotedValue? : List Char → Option (List Char × List Char)
  | [] => none
  | ['\\'] => none
  | '\\' :: c :: rest => (quotedValue? rest).map fun (value, after) => (c :: value, after)
  | c :: rest =>
    if c = '\'' then some ([], rest)
    else (quotedValue? rest).map fun (value, after) => (c :: value, after)

/-- A value and the text after it; only a quoted value may be empty. -/
def value? : List Char → Option (List Char × List Char)
  | '\'' :: rest => quotedValue? rest
  | text =>
    let (value, after) := bareValue text
    if value.isEmpty then none else some (value, after)

/-- The parameters of a list of keywords and values, read with so many steps at most. -/
def parametersWithin : Nat → List Char → Option (List Parameter)
  | 0, _ => none
  | steps + 1, text =>
    let (keyword, rest) := (skipBlanks text).span fun c => !Text.isBlank c && c ≠ '='
    if keyword.isEmpty then some []
    else match skipBlanks rest with
      | '=' :: rest => do
        let (value, after) ← value? (skipBlanks rest)
        let others ← parametersWithin steps after
        return .setting (String.ofList keyword) (String.ofList value) :: others
      | _ => none

/-- The parameters of a list of keywords and values. -/
def parameters? (text : List Char) : Option (List Parameter) :=
  parametersWithin (text.length + 1) text

end Keywords

namespace Url

/-- The bytes of a text in which a percent sign and two hexadecimal digits stand for one. -/
def decodeBytes : List UInt8 → List UInt8
  | 0x25 :: high :: low :: rest =>
    match Text.hexValue? 2 [Char.ofNat high.toNat, Char.ofNat low.toNat] with
    | some value => UInt8.ofNat value :: decodeBytes rest
    | none => 0x25 :: decodeBytes (high :: low :: rest)
  | byte :: rest => byte :: decodeBytes rest
  | [] => []

/-- The bytes of a part of a URL with its escapes resolved. -/
def partBytes (text : List Char) : List UInt8 := decodeBytes (String.ofList text).toUTF8.toList

/-- A part of a URL with its escapes resolved, if they make up text. -/
def decode? (text : List Char) : Option String := String.fromUTF8? ⟨(partBytes text).toArray⟩

/-- The parameter of a host: a path where it starts with a slash, else a name. -/
def host? (text : List Char) : Option Parameter :=
  match partBytes text with
  | 0x2f :: rest => some (.socket (0x2f :: rest))
  | _ => (decode? text).map (.setting "host")

/-- The text before the first of some characters, and the text from it on. -/
def takeUntil (ends : List Char) (text : List Char) : List Char × List Char :=
  text.span fun c => !ends.contains c

/-- The user and password in front of an at sign, and the text after it. -/
def credentials? (text : List Char) : Option (List Parameter × List Char) :=
  match takeUntil ['@'] text with
  | (_, []) => some ([], text)
  | (credentials, _ :: rest) => do
    let user ← decode? (takeUntil [':'] credentials).1
    return ([.setting "user" user], rest)

def hostAndPort? : List Char → Option (List Char × List Char)
  | '[' :: rest =>
    match takeUntil [']'] rest with
    | (_, []) => none
    | (host, _ :: ':' :: port) => some (host, port)
    | (host, [_]) => some (host, "5432".toList)
    | _ => none
  | text =>
    match takeUntil [':'] text with
    | (host, _ :: port) => some (host, port)
    | (host, []) => some (host, "5432".toList)

/-- The parameters of one entry of the host list. -/
def hostParameters? (text : List Char) : Option (List Parameter) := do
  let (host, port) ← hostAndPort? text
  return [← host? host, .setting "port" (← decode? port)]

def hosts? (text : List Char) : Option (List Parameter) :=
  if text.isEmpty then some []
  else ((splitAtEvery ',' text).mapM hostParameters?).map List.flatten

/-- The parameter of the path, which names a database. -/
def path? : List Char → Option (List Parameter)
  | '/' :: name =>
    if name.isEmpty then some [] else (decode? name).map fun name => [.setting "dbname" name]
  | _ => some []

/-- One assignment of the query part. -/
def assignment? (text : List Char) : Option Parameter :=
  match takeUntil ['='] text with
  | (_, []) => none
  | (keyword, _ :: value) => do
    let keyword ← decode? keyword
    if keyword = "host" then host? value else return .setting keyword (← decode? value)

/-- The parameters of the query part; an ampersand at its end adds none. -/
def query? : List Char → Option (List Parameter)
  | [] | ['?'] => some []
  | _ :: text =>
    let assignments := splitAtEvery '&' text
    let written := match assignments.getLast? with
      | some [] => assignments.dropLast
      | _ => assignments
    written.mapM assignment?

/-- The parameters of a URL after its scheme. -/
def parameters? (text : List Char) : Option (List Parameter) := do
  let (credentials, rest) ← credentials? text
  let (hosts, rest) := takeUntil ['/', '?'] rest
  let (path, query) := takeUntil ['?'] rest
  return credentials ++ (← hosts? hosts) ++ (← path? path) ++ (← query? query)

def schemes : List String := ["postgres://", "postgresql://"]

/-- The text after a scheme, if it starts with one. -/
def afterScheme? (text : List Char) : Option (List Char) :=
  schemes.findSome? fun scheme =>
    if scheme.toList.isPrefixOf text then some (text.drop scheme.length) else none

end Url

/-- The parameters of a connection string in either form. -/
def parameters? (text : String) : Option (List Parameter) :=
  match Url.afterScheme? text.toList with
  | some rest => Url.parameters? rest
  | none => Keywords.parameters? text.toList

/-- Whether a connection string is well formed and every parameter fits. -/
def isValidAddress (text : String) : Bool :=
  match parameters? text with
  | some parameters => parameters.all Parameter.isValid
  | none => false

end SqlWeave.Connection
