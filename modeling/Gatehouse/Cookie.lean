import Gatehouse.Http.Header

namespace Gatehouse

/-!
# Cookies

Cookies that a client sends and cookies that a response sets.

* `CookieJar.ofHeaders` — the cookies of every `Cookie` field: pairs at semicolons, name and value
  at the first `=`, the first value of a name wins;
* `Cookie`, `Cookie.text` — a cookie to set, with its attributes, and how it is written.
-/

/-! ### Cookies sent by a client -/

/-- Cookies by name, in the order in which the names first occur. -/
structure CookieJar where
  entries : List (String × String)
  deriving DecidableEq, Repr, Inhabited

namespace CookieJar

/-- No cookies. -/
def empty : CookieJar := ⟨[]⟩

/-- The value of a name. -/
def get? (jar : CookieJar) (name : String) : Option String :=
  (jar.entries.find? (·.1 = name)).map (·.2)

/-- Files a value under a name that has none yet. -/
def insertNew (jar : CookieJar) (name value : String) : CookieJar :=
  if jar.entries.any (·.1 = name) then jar else ⟨jar.entries ++ [(name, value)]⟩

/-- Removes one pair of double quotes around a value. -/
def unquote (value : List Char) : List Char :=
  match value with
  | '"' :: rest => if rest.getLast? = some '"' then rest.dropLast else value
  | _ => value

/-- Reads one pair: a non-empty name and a value, both trimmed. -/
def readPair? (piece : List Char) : Option (String × String) := do
  let (name, value) ← Text.splitOnce '=' piece
  let name := Text.trim name
  if name.isEmpty then none
  some (String.ofList name, String.ofList (unquote (Text.trim value)))

/-- The pairs of one `Cookie` value, in order. -/
def pairs (value : List Char) : List (String × String) :=
  (Text.splitAll ';' value).filterMap readPair?

/-- The pairs of a field value; a value that is not readable as text has none. -/
def pairsOfValue (value : Bytes) : List (String × String) :=
  match Http.valueText? value with
  | some text => pairs text
  | none => []

/-- Collects pairs; the first value of a name wins. -/
def ofPairs (ps : List (String × String)) : CookieJar :=
  ps.foldl (fun jar p => jar.insertNew p.1 p.2) empty

/-- The cookies of a message. -/
def ofHeaders (h : Http.Headers) : CookieJar :=
  ofPairs ((h.getAll .cookie).flatMap pairsOfValue)

@[simp] theorem get?_empty (name : String) : empty.get? name = none := rfl

end CookieJar

/-! ### Cookies to set -/

/-- A cookie to set on a client. -/
structure Cookie where
  name : String
  value : String
  path : Option String
  domain : Option String
  maxAge : Option Int
  secure : Bool
  httpOnly : Bool
  deriving DecidableEq, Repr, Inhabited

namespace Cookie

/-- A cookie without attributes. -/
def plain (name value : String) : Cookie := ⟨name, value, none, none, none, false, false⟩

/-- The attributes of a cookie, in the order they are written. -/
def attributes (c : Cookie) : List String :=
  (c.path.map ("Path=" ++ ·)).toList
    ++ (c.domain.map ("Domain=" ++ ·)).toList
    ++ (c.maxAge.map fun n => "Max-Age=" ++ toString n).toList
    ++ (if c.secure then ["Secure"] else [])
    ++ (if c.httpOnly then ["HttpOnly"] else [])

/-- How a cookie is written: the pair, then its attributes, each behind `; `. -/
def text (c : Cookie) : String :=
  c.attributes.foldl (fun acc a => acc ++ "; " ++ a) (c.name ++ "=" ++ c.value)

/-- The written cookie as a field value, if it is one. -/
def fieldValue? (c : Cookie) : Option Bytes :=
  let bytes := Utf8.bytes c.text
  if Http.isValue bytes then some bytes else none

@[simp] theorem text_plain (n v : String) : (plain n v).text = n ++ "=" ++ v := rfl

end Cookie

end Gatehouse
