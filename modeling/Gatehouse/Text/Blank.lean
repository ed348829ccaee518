namespace Gatehouse.Text

/-!
# Blank characters and trimming

Two notions of "blank" occur in the server: the Unicode `White_Space` property, used wherever a
setting, header or cookie is trimmed, and the narrower ASCII set used inside base64 text.

* `isBlank` — the Unicode `White_Space` property, by code point;
* `isAsciiBlank` — tab, line feed, form feed, carriage return and space;
* `trimStart`, `trimEnd`, `trim` — remove blank characters at the ends;
* `lower` — ASCII lower case, which leaves every other character alone.
-/

/-- The Unicode `White_Space` property. -/
def isBlank (c : Char) : Bool :=
  let n := c.toNat
  (9 ≤ n && n ≤ 13) || n == 0x20 || n == 0x85 || n == 0xA0 || n == 0x1680
    || (0x2000 ≤ n && n ≤ 0x200A) || n == 0x2028 || n == 0x2029 || n == 0x202F
    || n == 0x205F || n == 0x3000

/-- ASCII white space: tab, line feed, form feed, carriage return and space. -/
def isAsciiBlank (c : Char) : Bool :=
  let n := c.toNat
  n == 9 || n == 10 || n == 12 || n == 13 || n == 32

/-- Every character of core's ASCII white space is blank. -/
theorem isBlank_of_isWhitespace {c : Char} (h : c.isWhitespace = true) : isBlank c = true := by
  simp only [Char.isWhitespace, Bool.or_eq_true, decide_eq_true_eq] at h
  rcases h with ((h | h) | h) | h <;> subst h <;> rfl

/-- Drops blank characters at the front. -/
def trimStart (cs : List Char) : List Char := cs.dropWhile isBlank

/-- Drops blank characters at the back. -/
def trimEnd (cs : List Char) : List Char := (cs.reverse.dropWhile isBlank).reverse

/-- Drops blank characters at both ends. -/
def trim (cs : List Char) : List Char := trimEnd (trimStart cs)

/-- Whether nothing but blank characters is left. -/
def isBlankText (s : String) : Bool := s.toList.all isBlank

/-- ASCII lower case; other characters are kept. -/
def lower (cs : List Char) : List Char := cs.map Char.toLower

@[simp] theorem trim_nil : trim [] = [] := rfl

@[simp] theorem lower_nil : lower [] = [] := rfl

@[simp] theorem lower_cons (c : Char) (cs : List Char) :
    lower (c :: cs) = c.toLower :: lower cs := rfl

@[simp] theorem length_lower (cs : List Char) : (lower cs).length = cs.length := by
  simp [lower]

/-- Splits at every occurrence of `sep`, keeping empty pieces; never empty. -/
def splitAll (sep : Char) : List Char → List (List Char)
  | [] => [[]]
  | c :: cs =>
    if c = sep then [] :: splitAll sep cs
    else match splitAll sep cs with
      | [] => [[c]]
      | p :: ps => (c :: p) :: ps

/-- Splits at the first occurrence of `sep`, if there is one. -/
def splitOnce (sep : Char) : List Char → Option (List Char × List Char)
  | [] => none
  | c :: cs =>
    if c = sep then some ([], cs)
    else (splitOnce sep cs).map fun (a, b) => (c :: a, b)

/-- Splits at the last occurrence of `sep`, if there is one. -/
def splitLast (sep : Char) (cs : List Char) : Option (List Char × List Char) :=
  (splitOnce sep cs.reverse).map fun (b, a) => (a.reverse, b.reverse)

theorem splitAll_ne_nil (sep : Char) (cs : List Char) : splitAll sep cs ≠ [] := by
  cases cs with
  | nil => simp [splitAll]
  | cons c cs =>
    simp only [splitAll]
    split
    · simp
    · split <;> simp

/-- Joins pieces with a separator in between. -/
def joinWith (sep : List Char) : List (List Char) → List Char
  | [] => []
  | [p] => p
  | p :: ps => p ++ sep ++ joinWith sep ps

end Gatehouse.Text
