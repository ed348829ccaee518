namespace Gatehouse.Yaml

/-!
# Places in a text

A text is read through a cursor, which knows what is left and where it stands. The end of the text
counts as the end of a line and of a word.

* `Mark` — a place, counted in characters, lines and columns from zero;
* `Cursor` — the characters left and the place of the first;
* `Cursor.skip`, `Cursor.takeWhile`, `Cursor.readBreak` — the ways to move on.
-/

/-- A place in a text. -/
structure Mark where
  index : Nat
  line : Nat
  column : Nat
  deriving DecidableEq, Repr, Inhabited

namespace Mark

/-- The place in front of the first character. -/
def origin : Mark := ⟨0, 0, 0⟩

/-- Whether the mark is at the start of the first line, where messages name no place. -/
def isOrigin (m : Mark) : Bool := m.line == 0 && m.column == 0

/-- The place in words, counted from one. -/
def text (m : Mark) : String :=
  "line " ++ toString (m.line + 1) ++ " column " ++ toString (m.column + 1)

end Mark

/-! ### Character classes -/

/-- Characters that end a line. -/
def isBreak (c : Char) : Bool :=
  c == '\n' || c == '\r' || c == '\u0085' || c == '\u2028' || c == '\u2029'

/-- Space and tab. -/
def isSpacing (c : Char) : Bool := c == ' ' || c == '\t'

/-- Letters, digits, underscore and hyphen of ASCII. -/
def isNameChar (c : Char) : Bool := c.isAlphanum || c == '_' || c == '-'

/-- Whether a line ends here. -/
def endsLine : Option Char → Bool
  | none => true
  | some c => isBreak c

/-- Whether a word ends here. -/
def endsWord : Option Char → Bool
  | none => true
  | some c => isSpacing c || isBreak c

/-! ### Cursor -/

/-- What is left of a text, and where it starts. -/
structure Cursor where
  rest : List Char
  mark : Mark
  deriving Repr, Inhabited

namespace Cursor

/-- A cursor in front of a text. -/
def start (text : List Char) : Cursor := ⟨text, .origin⟩

/-- The next character. -/
def peek (c : Cursor) : Option Char := c.rest.head?

/-- The character `n` places further on. -/
def ahead (c : Cursor) (n : Nat) : Option Char := c.rest[n]?

/-- Whether the next character is the given one. -/
def sees (c : Cursor) (ch : Char) : Bool := c.peek == some ch

/-- Whether the text goes on with the given characters. -/
def startsWith (c : Cursor) (word : List Char) : Bool := word.isPrefixOf c.rest

/-- Moves over characters of the same line. -/
def skip (c : Cursor) (n : Nat) : Cursor :=
  let m := c.mark
  ⟨c.rest.drop n, ⟨m.index + n, m.line, m.column + n⟩⟩

/-- The characters of a class at the front, and what comes after them. -/
def takeWhile (c : Cursor) (p : Char → Bool) : List Char × Cursor :=
  let taken := c.rest.takeWhile p
  (taken, c.skip taken.length)

/-- Moves over the characters of a class. -/
def skipWhile (c : Cursor) (p : Char → Bool) : Cursor := (c.takeWhile p).2

/-- Moves over a line break, if one is next. Carriage return and line feed together are one. -/
def skipBreak (c : Cursor) : Cursor :=
  let m := c.mark
  match c.rest with
  | '\r' :: '\n' :: rest => ⟨rest, ⟨m.index + 2, m.line + 1, 0⟩⟩
  | ch :: rest => if isBreak ch then ⟨rest, ⟨m.index + 1, m.line + 1, 0⟩⟩ else c
  | [] => c

/-- The text that a line break stands for: a line feed, unless it is a separator character. -/
def breakText (c : Cursor) : List Char :=
  match c.peek with
  | some '\u2028' => ['\u2028']
  | some '\u2029' => ['\u2029']
  | some ch => if isBreak ch then ['\n'] else []
  | none => []

/-- Reads a line break, if one is next. -/
def readBreak (c : Cursor) : List Char × Cursor := (c.breakText, c.skipBreak)

/-- Moves over a comment up to the end of its line. -/
def skipComment (c : Cursor) : Cursor :=
  if c.sees '#' then c.skipWhile fun ch => !isBreak ch else c

/-- Whether a document marker of three characters starts a line here. -/
def atMarker (c : Cursor) (word : List Char) : Bool :=
  c.mark.column == 0 && c.startsWith word && endsWord (c.ahead 3)

/-- Whether the start or the end of a document is marked here. -/
def atDocumentMarker (c : Cursor) : Bool :=
  c.atMarker ['-', '-', '-'] || c.atMarker ['.', '.', '.']

@[simp] theorem rest_skip (c : Cursor) (n : Nat) : (c.skip n).rest = c.rest.drop n := rfl

end Cursor

end Gatehouse.Yaml
