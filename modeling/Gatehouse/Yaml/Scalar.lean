import Gatehouse.Yaml.Problem

namespace Gatehouse.Yaml

/-!
# Scalars

The five ways to write a text. Lines of plain, quoted and folded scalars are joined: one break
becomes a space, several lose the first one.

* `Gap` — spacing and breaks between two words, and `Gap.fold`, what they stand for;
* `readQuoted`, `readPlain`, `readBlock` — one scalar at the cursor, with its end.

Each loop takes a bound on its rounds, which the length of the text left exceeds.
-/

/-- How a scalar is written. -/
inductive Style where
  | plain
  | singleQuoted
  | doubleQuoted
  | literal
  | folded
  deriving DecidableEq, Repr, Inhabited

/-! ### Gaps between words -/

/-- Spacing and breaks between two words. Without a break only the spacing counts. -/
structure Gap where
  spacing : List Char
  first : List Char
  more : List Char
  broken : Bool
  deriving Repr, Inhabited

namespace Gap

/-- No gap. -/
def none : Gap := ⟨[], [], [], false⟩

/-- A gap that begins behind an escaped break, which stands for nothing. -/
def escaped : Gap := ⟨[], [], [], true⟩

/-- Joined lines: a lone line feed becomes a space, and otherwise the first one is dropped. -/
def joinBreaks (first more : List Char) : List Char :=
  if first.head? = some '\n' then if more.isEmpty then [' '] else more else first ++ more

/-- What a gap stands for. -/
def fold (g : Gap) : List Char := if g.broken then joinBreaks g.first g.more else g.spacing

/-- Reads a gap. Where tabs must not indent, a tab behind a break in front of that column is
    reported by its place. -/
def read (tabLimit : Option Nat) : Nat → Gap → Cursor → Except Mark (Gap × Cursor)
  | 0, g, c => .ok (g, c)
  | fuel + 1, g, c =>
    match c.peek with
    | Option.none => .ok (g, c)
    | some ch =>
      if isSpacing ch then
        if g.broken && ch == '\t' && tabLimit.any (c.mark.column < ·) then .error c.mark
        else
          read tabLimit fuel (if g.broken then g else { g with spacing := g.spacing ++ [ch] })
            (c.skip 1)
      else if isBreak ch then
        let (text, c') := c.readBreak
        read tabLimit fuel
          (if g.broken then { g with more := g.more ++ text }
            else { g with spacing := [], first := text, broken := true }) c'
      else .ok (g, c)

end Gap

/-! ### Quoted scalars -/

/-- The character a single letter stands for behind a backslash. -/
def escapeLetter? : Char → Option Char
  | '0' => some '\x00'
  | 'a' => some '\x07'
  | 'b' => some '\x08'
  | 't' => some '\t'
  | '\t' => some '\t'
  | 'n' => some '\n'
  | 'v' => some '\x0b'
  | 'f' => some '\x0c'
  | 'r' => some '\r'
  | 'e' => some '\x1b'
  | ' ' => some ' '
  | '"' => some '"'
  | '/' => some '/'
  | '\\' => some '\\'
  | 'N' => some '\u0085'
  | '_' => some '\u00a0'
  | 'L' => some '\u2028'
  | 'P' => some '\u2029'
  | _ => none

/-- How many hexadecimal digits follow a letter behind a backslash. -/
def escapeDigits? : Char → Option Nat
  | 'x' => some 2
  | 'u' => some 4
  | 'U' => some 8
  | _ => none

/-- The value of a hexadecimal digit. -/
def hexDigit? (c : Char) : Option Nat :=
  if c.isDigit then some (c.toNat - 48)
  else if 'a' ≤ c ∧ c ≤ 'f' then some (c.toNat - 87)
  else if 'A' ≤ c ∧ c ≤ 'F' then some (c.toNat - 55)
  else none

/-- The value of `n` hexadecimal digits. -/
def hexValue? (n : Nat) (cs : List Char) : Option Nat :=
  let ds := (cs.take n).filterMap hexDigit?
  if ds.length = n then some (ds.foldl (fun v d => v * 16 + d) 0) else none

/-- Reads an escape, the backslash included. -/
def readEscape (began : Mark) (c : Cursor) : Except Fault (Char × Cursor) :=
  let fail := fun p => Except.error (Fault.during .quotedEscape began p c.mark)
  match c.ahead 1 with
  | none => fail .unknownEscape
  | some letter =>
    match escapeLetter? letter, escapeDigits? letter with
    | some ch, _ => .ok (ch, c.skip 2)
    | none, some n =>
      let c' := c.skip 2
      match hexValue? n c'.rest with
      | none => .error (.during .quotedEscape began .hexNumber c'.mark)
      | some v =>
        if (0xD800 ≤ v && v ≤ 0xDFFF) || v > 0x10FFFF then
          .error (.during .quotedEscape began .invalidCodePoint c'.mark)
        else .ok (Char.ofNat v, c'.skip n)
    | none, none => fail .unknownEscape

/-- Reads up to the next spacing, break or closing quote. Text is collected in reverse; the flag
    tells whether an escaped break ended the word. -/
def readQuotedWord (single : Bool) (began : Mark) :
    Nat → List Char → Cursor → Except Fault (List Char × Bool × Cursor)
  | 0, acc, c => .ok (acc, false, c)
  | fuel + 1, acc, c =>
    if endsWord c.peek then .ok (acc, false, c)
    else if single && c.startsWith ['\'', '\''] then
      readQuotedWord single began fuel ('\'' :: acc) (c.skip 2)
    else if c.sees (if single then '\'' else '"') then .ok (acc, false, c)
    else if !single && c.sees '\\' then
      if (c.ahead 1).any isBreak then .ok (acc, true, (c.skip 1).skipBreak)
      else match readEscape began c with
        | .error f => .error f
        | .ok (ch, c') => readQuotedWord single began fuel (ch :: acc) c'
    else readQuotedWord single began fuel (c.peek.toList ++ acc) (c.skip 1)

/-- Reads words and gaps up to the closing quote. -/
def readQuotedText (single : Bool) (began : Mark) :
    Nat → List Char → Cursor → Except Fault (List Char × Cursor)
  | 0, acc, c => .ok (acc, c)
  | fuel + 1, acc, c =>
    if c.atDocumentMarker then .error (.during .quotedScalar began .documentMarker c.mark)
    else if c.rest.isEmpty then .error (.during .quotedScalar began .endOfStream c.mark)
    else match readQuotedWord single began (c.rest.length + 1) acc c with
      | .error f => .error f
      | .ok (acc, escapedBreak, c) =>
        if c.sees (if single then '\'' else '"') then .ok (acc, c.skip 1)
        else match Gap.read none (c.rest.length + 1) (if escapedBreak then .escaped else .none) c with
          | .error _ => .ok (acc, c)
          | .ok (g, c) => readQuotedText single began fuel (g.fold.reverse ++ acc) c

/-- Reads a quoted scalar. -/
def readQuoted (single : Bool) (c : Cursor) : Except Fault (String × Cursor) :=
  match readQuotedText single c.mark (c.rest.length + 1) [] (c.skip 1) with
  | .ok (acc, c) => .ok (String.ofList acc.reverse, c)
  | .error f => .error f

/-! ### Plain scalars -/

/-- Characters with a meaning of their own inside brackets and braces. -/
def isFlowIndicator (c : Char) : Bool := c == ',' || c == '[' || c == ']' || c == '{' || c == '}'

/-- Whether a plain scalar ends in front of the next character. -/
def endsPlain (flow : Bool) (c : Cursor) : Bool :=
  (c.sees ':' && endsWord (c.ahead 1)) || (flow && c.peek.any isFlowIndicator)

/-- Whether a colon stands where it could be taken for part of a plain scalar. -/
def hasStrayColon (flow : Bool) (c : Cursor) : Bool :=
  flow && c.sees ':' && (c.ahead 1).any fun ch => isFlowIndicator ch || ch == '?'

/-- What is known while a plain scalar is read: its text in reverse, the gap behind it, the end of
    its last word. -/
structure PlainText where
  acc : List Char
  gap : Gap
  stop : Mark
  deriving Repr

/-- Reads up to the next spacing or break. -/
def readPlainWord (flow : Bool) (began : Mark) :
    Nat → PlainText → Cursor → Except Fault (PlainText × Cursor)
  | 0, t, c => .ok (t, c)
  | fuel + 1, t, c =>
    if endsWord c.peek then .ok (t, c)
    else if hasStrayColon flow c then
      .error (.during .plainScalar began .unexpectedColon c.mark)
    else if endsPlain flow c then .ok (t, c)
    else
      let c' := c.skip 1
      readPlainWord flow began fuel
        ⟨c.peek.toList ++ (t.gap.fold.reverse ++ t.acc), .none, c'.mark⟩ c'

/-- Reads words and gaps. A line that is not indented enough ends the scalar. -/
def readPlainText (flow : Bool) (began : Mark) (indent : Nat) :
    Nat → PlainText → Cursor → Except Fault (PlainText × Cursor)
  | 0, t, c => .ok (t, c)
  | fuel + 1, t, c =>
    if c.atDocumentMarker || c.sees '#' then .ok (t, c)
    else match readPlainWord flow began (c.rest.length + 1) t c with
      | .error f => .error f
      | .ok (t, c) =>
        if !c.peek.any (fun ch => isSpacing ch || isBreak ch) then .ok (t, c)
        else match Gap.read (some indent) (c.rest.length + 1) t.gap c with
          | .error m => .error (.during .plainScalar began .tabInPlainScalar m)
          | .ok (g, c) =>
            let t := { t with gap := g }
            if !flow && c.mark.column < indent then .ok (t, c)
            else readPlainText flow began indent fuel t c

/-- A plain scalar: its text, its end, and whether a line break follows it. -/
structure Plain where
  text : String
  stop : Mark
  broken : Bool
  deriving Repr

/-- Reads a plain scalar. -/
def readPlain (flow : Bool) (indent : Nat) (c : Cursor) : Except Fault (Plain × Cursor) :=
  match readPlainText flow c.mark indent (c.rest.length + 1) ⟨[], .none, c.mark⟩ c with
  | .ok (t, c) => .ok (⟨String.ofList t.acc.reverse, t.stop, t.gap.broken⟩, c)
  | .error f => .error f

/-! ### Block scalars -/

/-- What becomes of the breaks behind the last line. -/
inductive Chomping where
  | strip
  | clip
  | keep
  deriving DecidableEq, Repr

/-- The head of a block scalar: chomping and an explicit indentation. -/
structure BlockHead where
  chomping : Chomping
  increment : Option Nat
  deriving Repr

/-- Reads a chomping indicator. -/
def readChomping (c : Cursor) : Chomping × Cursor :=
  match c.peek with
  | some '+' => (.keep, c.skip 1)
  | some '-' => (.strip, c.skip 1)
  | _ => (.clip, c)

/-- Reads an indentation indicator. -/
def readIncrement (began : Mark) (c : Cursor) : Except Fault (Option Nat × Cursor) :=
  match c.peek with
  | some ch =>
    if ch == '0' then .error (.during .blockScalar began .zeroIndentation c.mark)
    else if ch.isDigit then .ok (some (ch.toNat - 48), c.skip 1)
    else .ok (none, c)
  | none => .ok (none, c)

/-- Reads both indicators, in either order. -/
def readBlockHead (began : Mark) (c : Cursor) : Except Fault (BlockHead × Cursor) :=
  if c.sees '+' || c.sees '-' then
    let (chomping, c) := readChomping c
    (readIncrement began c).map fun (n, c) => (⟨chomping, n⟩, c)
  else match readIncrement began c with
    | .error f => .error f
    | .ok (none, c) => .ok (⟨.clip, none⟩, c)
    | .ok (n, c) => let (chomping, c) := readChomping c; .ok (⟨chomping, n⟩, c)

/-- Empty lines in front of a line of a block scalar: their breaks, the widest indentation seen,
    and the end of the last break. -/
structure EmptyLines where
  breaks : List Char
  widest : Nat
  stop : Mark
  deriving Repr

/-- Reads empty lines. As long as the indentation is not known, every space counts towards it. -/
def readEmptyLines (began : Mark) (indent : Option Nat) :
    Nat → EmptyLines → Cursor → Except Fault (EmptyLines × Cursor)
  | 0, e, c => .ok (e, c)
  | fuel + 1, e, c =>
    let room := match indent with
      | some n => n - c.mark.column
      | none => c.rest.length
    let c := c.skip ((c.rest.take room).takeWhile (· == ' ')).length
    let e := { e with widest := max e.widest c.mark.column }
    if c.sees '\t' && (indent.isNone || indent.any (c.mark.column < ·)) then
      .error (.during .blockScalar began .tabInIndentation c.mark)
    else if !c.peek.any isBreak then .ok (e, c)
    else
      let (text, c) := c.readBreak
      readEmptyLines began indent fuel { e with breaks := e.breaks ++ text, stop := c.mark } c

/-- What is known while a block scalar is read: its text in reverse, the break behind the last
    line, the empty lines behind it, whether that line begins with spacing. -/
structure BlockText where
  acc : List Char
  lineBreak : List Char
  empty : EmptyLines
  leading : Bool
  deriving Repr

/-- The text between two lines. Only lines that both begin without spacing are joined. -/
def BlockText.between (t : BlockText) (folded spaced : Bool) : List Char :=
  if folded && t.lineBreak.head? == some '\n' && !t.leading && !spaced then
    if t.empty.breaks.isEmpty then [' '] else t.empty.breaks
  else t.lineBreak ++ t.empty.breaks

/-- Reads the lines of a block scalar. -/
def readBlockLines (began : Mark) (folded : Bool) (indent : Nat) :
    Nat → BlockText → Cursor → Except Fault (BlockText × Cursor)
  | 0, t, c => .ok (t, c)
  | fuel + 1, t, c =>
    if c.mark.column ≠ indent || c.rest.isEmpty then .ok (t, c)
    else
      let spaced := c.peek.any isSpacing
      let (line, c) := c.takeWhile fun ch => !isBreak ch
      let acc := line.reverse ++ ((t.between folded spaced).reverse ++ t.acc)
      let (text, c) := c.readBreak
      match readEmptyLines began (some indent) (c.rest.length + 1) ⟨[], 0, c.mark⟩ c with
      | .error f => .error f
      | .ok (e, c) => readBlockLines began folded indent fuel ⟨acc, text, e, spaced⟩ c

/-- The text of a block scalar once its end is chomped. -/
def BlockText.finish (t : BlockText) : Chomping → String
  | .strip => String.ofList t.acc.reverse
  | .clip => String.ofList (t.acc.reverse ++ t.lineBreak)
  | .keep => String.ofList (t.acc.reverse ++ t.lineBreak ++ t.empty.breaks)

/-- Reads a block scalar inside a block of the given indentation, which is negative at the root;
    gives its text and its end. -/
def readBlock (folded : Bool) (outer : Int) (c : Cursor) :
    Except Fault (String × Mark × Cursor) := do
  let began := c.mark
  let (head, c) ← readBlockHead began (c.skip 1)
  let c := (c.skipWhile isSpacing).skipComment
  if !endsLine c.peek then throw (.during .blockScalar began .commentOrBreak c.mark)
  let c := c.skipBreak
  let given := head.increment.map fun n => if 0 ≤ outer then outer.toNat + n else n
  let (e, c) ← readEmptyLines began given (c.rest.length + 1) ⟨[], 0, c.mark⟩ c
  let indent := given.getD (max (max e.widest (outer + 1).toNat) 1)
  let (t, c) ← readBlockLines began folded indent (c.rest.length + 1) ⟨[], [], e, false⟩ c
  return (t.finish head.chomping, t.empty.stop, c)

end Gatehouse.Yaml
