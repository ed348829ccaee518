import Gatehouse.Text.Utf8
import Gatehouse.Yaml.Scalar

namespace Gatehouse.Yaml

/-!
# Anchors, tags and directives

The parts of a text that name things.

* `readName` — the name behind `&` or `*`;
* `readTag` — a tag: `<uri>`, a handle with a suffix, or a bare `!`;
* `Directive`, `readDirective` — a line that begins with a percent sign.
-/

/-! ### Anchors and aliases -/

/-- Characters that may follow the name of an anchor, spacing and breaks aside. -/
def endsName (c : Char) : Bool := "?:,]\x7d%@".contains c || c.toNat == 0x60

/-- Reads the name behind the indicator of an anchor or alias. -/
def readName (task : Task) (c : Cursor) : Except Fault (String × Cursor) :=
  let began := c.mark
  let (name, c) := (c.skip 1).takeWhile isNameChar
  if name.isEmpty || !(endsWord c.peek || c.peek.any endsName) then
    .error (.during task began .nameCharacter c.mark)
  else .ok (String.ofList name, c)

/-! ### Tags -/

/-- A tag as it is written: a handle, which may be empty, and what follows it. -/
structure Tag where
  handle : String
  suffix : String
  deriving DecidableEq, Repr, Inhabited

/-- Characters of a tag outside angle brackets, letters, digits, hyphen and underscore aside. -/
def isUriMark (c : Char) : Bool := ";/?:@&=+$.%!~*'()".contains c

/-- Whether a character may occur in a tag; inside angle brackets there are three more. -/
def isUriChar (verbatim : Bool) (c : Char) : Bool :=
  isNameChar c || isUriMark c || (verbatim && (c == ',' || c == '[' || c == ']'))

/-- Reads one `%XX`. -/
def readOctet (task : Task) (began : Mark) (c : Cursor) : Except Fault (UInt8 × Cursor) :=
  match c.sees '%', hexValue? 2 (c.rest.drop 1) with
  | true, some v => .ok (UInt8.ofNat v, c.skip 3)
  | _, _ => .error (.during task began .uriOctet c.mark)

/-- Reads the octets behind the first one of an escaped character. -/
def readTrailingOctets (task : Task) (began : Mark) :
    Nat → Bytes → Cursor → Except Fault (Bytes × Cursor)
  | 0, acc, c => .ok (acc, c)
  | n + 1, acc, c => do
    let (b, c') ← readOctet task began c
    if b &&& 0xC0 ≠ 0x80 then throw (.during task began .uriTrailingOctet c.mark)
    readTrailingOctets task began n (acc ++ [b]) c'

/-- The number of octets that follow a leading one. -/
def trailingCount? (b : UInt8) : Option Nat :=
  if b &&& 0x80 = 0 then some 0
  else if b &&& 0xE0 = 0xC0 then some 1
  else if b &&& 0xF0 = 0xE0 then some 2
  else if b &&& 0xF8 = 0xF0 then some 3
  else none

/-- Reads one escaped character. -/
def readUriEscape (task : Task) (began : Mark) (c : Cursor) :
    Except Fault (List Char × Cursor) := do
  let (b, c') ← readOctet task began c
  match trailingCount? b with
  | none => throw (.during task began .uriLeadingOctet c.mark)
  | some n =>
    let (bytes, c'') ← readTrailingOctets task began n [b] c'
    return (Utf8.decodeLossy bytes, c'')

/-- Reads the characters of a tag. -/
def readUriText (task : Task) (began : Mark) (verbatim : Bool) :
    Nat → List Char → Cursor → Except Fault (List Char × Cursor)
  | 0, acc, c => .ok (acc, c)
  | fuel + 1, acc, c =>
    if c.sees '%' then
      match readUriEscape task began c with
      | .error f => .error f
      | .ok (text, c) => readUriText task began verbatim fuel (acc ++ text) c
    else if c.peek.any (isUriChar verbatim) then
      readUriText task began verbatim fuel (acc ++ c.peek.toList) (c.skip 1)
    else .ok (acc, c)

/-- Reads a tag from a text already begun, which must not stay empty. The exclamation mark in front
    of that text is dropped. -/
def readUri (task : Task) (began : Mark) (verbatim : Bool) (head : List Char) (c : Cursor) :
    Except Fault (String × Cursor) := do
  let (text, c') ← readUriText task began verbatim (c.rest.length + 1) [] c
  if head.isEmpty && text.isEmpty then throw (.during task began .tagUri c'.mark)
  return (String.ofList (head.drop 1 ++ text), c')

/-- Reads a handle: `!`, name characters, and the closing `!` if there is one. -/
def readHandle (directive : Bool) (began : Mark) (c : Cursor) :
    Except Fault (List Char × Cursor) := do
  if !c.sees '!' then
    throw (.during (if directive then .tagDirective else .tag) began .exclamationMark c.mark)
  let (name, c) := (c.skip 1).takeWhile isNameChar
  if c.sees '!' then return ('!' :: name ++ ['!'], c.skip 1)
  if directive && !name.isEmpty then
    throw (.during .tagDirectiveUri began .exclamationMark c.mark)
  return ('!' :: name, c)

/-- Reads a tag in angle brackets. -/
def readVerbatimTag (began : Mark) (c : Cursor) : Except Fault (Tag × Cursor) := do
  let (suffix, c) ← readUri .tagUri began true [] (c.skip 2)
  if !c.sees '>' then throw (.during .tag began .closingAngle c.mark)
  return (⟨"", suffix⟩, c.skip 1)

/-- Reads a tag with a handle. Without a closing exclamation mark what looked like a handle is the
    beginning of the suffix. -/
def readShortTag (began : Mark) (c : Cursor) : Except Fault (Tag × Cursor) := do
  let (handle, c) ← readHandle false began c
  if 1 < handle.length ∧ handle.getLast? = some '!' then
    let (suffix, c) ← readUri .tagUri began false [] c
    return (⟨String.ofList handle, suffix⟩, c)
  else
    let (suffix, c) ← readUri .tagUri began false handle c
    return (if suffix.isEmpty then ⟨"", "!"⟩ else ⟨"!", suffix⟩, c)

/-- Reads a tag. It ends with a word, or inside brackets and braces with a comma. -/
def readTag (flow : Bool) (c : Cursor) : Except Fault (Tag × Cursor) := do
  let began := c.mark
  let (tag, c) ← if c.ahead 1 = some '<' then readVerbatimTag began c else readShortTag began c
  if !(flow && c.sees ',') && !endsWord c.peek then
    throw (.during .tag began .whitespaceOrBreak c.mark)
  return (tag, c)

/-! ### Directives -/

/-- A directive: the version of the language, or the meaning of a tag handle. -/
inductive Directive where
  | version (major minor : Nat)
  | tag (handle stem : String)
  deriving DecidableEq, Repr, Inhabited

/-- The most digits of a version number. -/
def maxVersionDigits : Nat := 9

/-- Reads one number of a version. -/
def readVersionNumber (began : Mark) (c : Cursor) : Except Fault (Nat × Cursor) :=
  let (digits, c') := c.takeWhile Char.isDigit
  if digits.length > maxVersionDigits then
    .error (.during .versionDirective began .versionTooLong (c.skip maxVersionDigits).mark)
  else if digits.isEmpty then .error (.during .versionDirective began .versionNumber c'.mark)
  else .ok (digits.foldl (fun n d => n * 10 + (d.toNat - 48)) 0, c')

/-- Reads the value of a version directive. -/
def readVersion (began : Mark) (c : Cursor) : Except Fault (Directive × Cursor) := do
  let (major, c) ← readVersionNumber began (c.skipWhile isSpacing)
  if !c.sees '.' then throw (.during .versionDirective began .versionDot c.mark)
  let (minor, c) ← readVersionNumber began (c.skip 1)
  return (.version major minor, c)

/-- Reads the value of a tag directive. -/
def readTagDirective (began : Mark) (c : Cursor) : Except Fault (Directive × Cursor) := do
  let (handle, c) ← readHandle true began (c.skipWhile isSpacing)
  if !c.peek.any isSpacing then throw (.during .tagDirective began .whitespace c.mark)
  let (stem, c) ← readUri .tagDirectiveUri began true [] (c.skipWhile isSpacing)
  if !endsWord c.peek then throw (.during .tagDirective began .whitespaceOrBreak c.mark)
  return (.tag (String.ofList handle) stem, c)

/-- Reads a directive with its line break; also gives the end of its value. -/
def readDirective (c : Cursor) : Except Fault (Directive × Mark × Cursor) := do
  let began := c.mark
  let (name, c) := (c.skip 1).takeWhile isNameChar
  if name.isEmpty then throw (.during .directive began .directiveName c.mark)
  if !endsWord c.peek then throw (.during .directive began .directiveNameCharacter c.mark)
  let (directive, c) ←
    if name = ['Y', 'A', 'M', 'L'] then readVersion began c
    else if name = ['T', 'A', 'G'] then readTagDirective began c
    else throw (.during .directive began .unknownDirective c.mark)
  let stop := c.mark
  let c := (c.skipWhile isSpacing).skipComment
  if !endsLine c.peek then throw (.during .directive began .directiveTail c.mark)
  return (directive, stop, c.skipBreak)

end Gatehouse.Yaml
