import Gatehouse.Text.Utf8
import Gatehouse.Text.Blank

namespace Gatehouse.Http

/-!
# Request targets

The four forms of a request target: a path with an optional query, an absolute URI, a bare
authority, and `*`. A fragment is dropped.

* `Target` — scheme, authority, path and query;
* `Target.parse?` — reads any of the four forms;
* `authorityEnd?` — how far an authority reaches;
* `schemeEnd` — whether and where a scheme ends.
-/

/-- A request target. The path is empty for a bare authority only. -/
structure Target where
  scheme : Option String
  authority : Option String
  path : String
  query : Option String
  deriving DecidableEq, Repr, Inhabited

namespace Target

/-- The target `/`. -/
def root : Target := ⟨none, none, "/", none⟩

/-- The longest target admitted, in bytes. -/
def maxSize : Nat := 65534

/-- The longest scheme admitted. -/
def maxScheme : Nat := 64

/-! ### Character classes -/

/-- Characters a path may hold: those that need no percent encoding, the quote and the braces,
    and everything outside visible ASCII. -/
def isPathChar (c : Char) : Bool :=
  let n := c.toNat
  n == 0x21 || n == 0x22 || (0x24 ≤ n && n ≤ 0x3B) || n == 0x3D || (0x40 ≤ n && n ≤ 0x5F)
    || (0x61 ≤ n && n ≤ 0x7E) || 0x7F ≤ n

/-- Characters a query may hold. -/
def isQueryChar (c : Char) : Bool :=
  let n := c.toNat
  n == 0x21 || (0x24 ≤ n && n ≤ 0x3B) || n == 0x3D || (0x3F ≤ n && n ≤ 0x7E) || 0x7F ≤ n

/-- Characters an authority may hold. -/
def isAuthorityChar (c : Char) : Bool := c.isAlphanum || "!$&'()*+,-.:;=@[]_~".contains c

/-- Characters that end an authority. -/
def endsAuthority (c : Char) : Bool := c == '/' || c == '?' || c == '#'

/-- Characters a scheme may hold. -/
def isSchemeChar (c : Char) : Bool := c.isAlphanum || "+-.~".contains c

/-! ### Authority -/

/-- What a scan of an authority has met so far. -/
structure AuthorityScan where
  colons : Nat
  opened : Bool
  closed : Bool
  percent : Bool
  lastAt : Bool
  deriving Repr

namespace AuthorityScan

/-- The scan before the first character. -/
def start : AuthorityScan := ⟨0, false, false, false, false⟩

/-- The most colons counted before the authority is refused. -/
def maxColons : Nat := 8

/-- Takes one character into account; `none` refuses it. User information in front of an `@` and
    an address in brackets may hold colons and percent signs, which therefore stop counting. -/
def step? (s : AuthorityScan) (c : Char) : Option AuthorityScan :=
  if c = ':' then
    if s.colons ≥ maxColons then none else some { s with colons := s.colons + 1, lastAt := false }
  else if c = '[' then
    if s.percent || s.opened then none else some { s with opened := true, lastAt := false }
  else if c = ']' then
    if !s.opened || s.closed then none
    else some { s with closed := true, colons := 0, percent := false, lastAt := false }
  else if c = '@' then some { s with colons := 0, percent := false, lastAt := true }
  else if c = '%' then some { s with percent := true, lastAt := false }
  else if isAuthorityChar c then some { s with lastAt := false }
  else none

/-- Whether the authority may end here: brackets paired, at most one colon left for the port,
    something after an `@`, no percent sign in the host. -/
def mayEnd (s : AuthorityScan) : Bool :=
  s.opened == s.closed && s.colons ≤ 1 && !s.lastAt && !s.percent

end AuthorityScan

/-- Splits an authority off the front of a text; `none` if it is malformed. -/
def authorityEnd? (s : AuthorityScan) : List Char → Option (List Char × List Char)
  | [] => if s.mayEnd then some ([], []) else none
  | c :: cs =>
    if endsAuthority c then if s.mayEnd then some ([], c :: cs) else none
    else match s.step? c with
      | none => none
      | some s' => (authorityEnd? s' cs).map fun (a, r) => (c :: a, r)

/-! ### Scheme -/

/-- Splits a scheme off the front of a text that has one. The outer `none` refuses the text. -/
def schemeEnd (cs : List Char) : Option (Option (List Char × List Char)) :=
  if cs.length ≤ 3 then some none
  else
    let name := cs.takeWhile isSchemeChar
    match cs.dropWhile isSchemeChar with
    | ':' :: '/' :: '/' :: rest =>
      if name.length > maxScheme then none else some (some (name, rest))
    | _ => some none

/-! ### Path and query -/

/-- Reads path and query up to a fragment. -/
def pathQuery? (cs : List Char) : Option (List Char × Option (List Char)) :=
  let path := cs.takeWhile fun c => c != '?' && c != '#'
  if !path.all isPathChar then none
  else match cs.dropWhile fun c => c != '?' && c != '#' with
    | '?' :: rest =>
      let query := rest.takeWhile (· != '#')
      if query.all isQueryChar then some (path, some query) else none
    | _ => some (path, none)

/-- Puts a target together from its parts; an empty path reads as `/`. -/
def ofParts (scheme authority : Option (List Char)) (pq : List Char × Option (List Char)) :
    Target :=
  ⟨scheme.map String.ofList, authority.map String.ofList,
    if pq.1.isEmpty then "/" else String.ofList pq.1, pq.2.map String.ofList⟩

/-- A bare authority. -/
def ofAuthority (authority : List Char) : Target := ⟨none, some (String.ofList authority), "", none⟩

/-- Reads a bare authority that covers the whole text. -/
def bareAuthority? (cs : List Char) : Option Target :=
  match authorityEnd? .start cs with
  | some (a, []) => some (ofAuthority a)
  | _ => none

/-- Reads a request target. -/
def parse? (text : String) : Option Target :=
  let cs := text.toList
  if Utf8.size cs > maxSize then none
  else match cs with
    | [] => none
    | ['*'] => some ⟨none, none, "*", none⟩
    | [c] => if c = '/' then some root else bareAuthority? cs
    | '/' :: _ => (pathQuery? cs).map (ofParts none none)
    | _ => do
      match ← schemeEnd cs with
      | none => bareAuthority? cs
      | some (scheme, rest) =>
        let (authority, tail) ← authorityEnd? .start rest
        if authority.isEmpty then none
        (pathQuery? tail).map (ofParts (some scheme) (some authority))

end Target

end Gatehouse.Http
