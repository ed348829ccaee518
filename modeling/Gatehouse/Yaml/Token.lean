import Gatehouse.Yaml.Label

namespace Gatehouse.Yaml

/-!
# Tokens

A text is cut into tokens on demand. Indentation opens and closes blocks, for which tokens are put
in, and a colon may turn out to follow a key that was cut long before; until that is settled the
tokens behind the possible key are held back.

* `Token`, `TokenKind` — the tokens;
* `Tokens` — the state of the cutting; `Tokens.ofText` — its beginning;
* `Tokens.ready` — cuts until the next token is settled; `Tokens.head?`, `Tokens.advance`.
-/

/-- The kinds of tokens. -/
inductive TokenKind where
  | streamStart
  | streamEnd
  | directive (value : Directive)
  | documentStart
  | documentEnd
  | blockSequenceStart
  | blockMappingStart
  | blockEnd
  | flowSequenceStart
  | flowSequenceEnd
  | flowMappingStart
  | flowMappingEnd
  | blockEntry
  | flowEntry
  | key
  | value
  | alias (name : String)
  | anchor (name : String)
  | tag (value : Tag)
  | scalar (text : String) (style : Style)
  deriving DecidableEq, Repr, Inhabited

/-- A token with the places where it starts and stops. -/
structure Token where
  kind : TokenKind
  start : Mark
  stop : Mark
  deriving DecidableEq, Repr, Inhabited

/-- A token that may be the beginning of a key: its number in the stream and its place, and
    whether nothing but a key can stand there. -/
structure PossibleKey where
  number : Nat
  mark : Mark
  required : Bool
  deriving DecidableEq, Repr, Inhabited

/-- The state of the cutting. `queue` holds tokens that were cut and not taken, `taken` counts the
    others; `keys` has an entry for the block context and one for each open bracket, the innermost
    first; `indent` is negative outside all blocks. -/
structure Tokens where
  cursor : Cursor
  queue : List Token
  taken : Nat
  started : Bool
  keys : List (Option PossibleKey)
  keyAllowed : Bool
  indent : Int
  outer : List Int
  deriving Repr, Inhabited

namespace Tokens

/-- The cutting of a text, not yet begun. -/
def ofText (text : List Char) : Tokens := ⟨.start text, [], 0, false, [], false, -1, []⟩

/-- Where the cutting stands. -/
def mark (t : Tokens) : Mark := t.cursor.mark

/-- Whether a bracket or brace is open. -/
def inFlow (t : Tokens) : Bool := 1 < t.keys.length

/-- Adds a token at the end. -/
def push (t : Tokens) (kind : TokenKind) (start stop : Mark) : Tokens :=
  { t with queue := t.queue ++ [⟨kind, start, stop⟩] }

/-- Puts a token in front of the one with the given number. -/
def insertAt (t : Tokens) (number : Nat) (token : Token) : Tokens :=
  let i := number - t.taken
  { t with queue := t.queue.take i ++ [token] ++ t.queue.drop i }

/-- Moves over `n` characters and adds the token they form. -/
def pushIndicator (t : Tokens) (kind : TokenKind) (n : Nat) : Tokens :=
  let c := t.cursor.skip n
  ({ t with cursor := c }).push kind t.mark c.mark

/-! ### Possible keys -/

/-- The possible key of the innermost context. -/
def possibleKey? (t : Tokens) : Option PossibleKey := t.keys.head?.join

/-- Replaces the possible key of the innermost context. -/
def setKey (t : Tokens) (k : Option PossibleKey) : Tokens := { t with keys := k :: t.keys.tail }

/-- The longest distance between the start of a key and its colon. -/
def maxKeyLength : Nat := 1024

/-- Whether a possible key can no longer be one: keys end on their line and are short. -/
def isStale (now : Mark) (k : PossibleKey) : Bool :=
  k.mark.line < now.line || k.mark.index + maxKeyLength < now.index

/-- Gives up possible keys that can no longer be one. -/
def dropStaleKeys (t : Tokens) : Except Fault Tokens := do
  -- the outermost context is looked at first
  let keys ← t.keys.reverse.mapM fun (k : Option PossibleKey) => do
    match k with
    | none => return none
    | some key =>
      if !isStale t.mark key then return some key
      if key.required then throw (.during .simpleKey key.mark .missingColon t.mark)
      return none
  return { t with keys := keys.reverse }

/-- Gives up the possible key of the innermost context. -/
def dropKey (t : Tokens) : Except Fault Tokens :=
  match t.possibleKey? with
  | some key =>
    if key.required then .error (.during .simpleKey key.mark .missingColon t.mark)
    else .ok (t.setKey none)
  | none => .ok t

/-- Notes that the next token may begin a key. -/
def saveKey (t : Tokens) : Except Fault Tokens :=
  if t.keyAllowed then do
    let required := !t.inFlow && t.indent == (t.mark.column : Int)
    let number := t.taken + t.queue.length
    return (← t.dropKey).setKey (some ⟨number, t.mark, required⟩)
  else .ok t

/-! ### Indentation -/

/-- Opens a block at a column that is further in. -/
def openBlock (t : Tokens) (kind : TokenKind) (number : Option Nat) (m : Mark) : Tokens :=
  if t.inFlow || (m.column : Int) ≤ t.indent then t
  else
    let t := { t with outer := t.indent :: t.outer, indent := m.column }
    match number with
    | none => t.push kind m m
    | some n => t.insertAt n ⟨kind, m, m⟩

/-- Closes blocks that are further in than a column. -/
def closeBlocksFrom (column : Int) : List Int → Tokens → Tokens
  | [], t => t
  | o :: outer, t =>
    if column < t.indent then
      closeBlocksFrom column outer
        (({ t with indent := o, outer := outer }).push .blockEnd t.mark t.mark)
    else t

/-- Closes blocks that are further in than a column; brackets and braces take no indentation. -/
def closeBlocks (t : Tokens) (column : Int) : Tokens :=
  if t.inFlow then t else closeBlocksFrom column t.outer t

/-! ### Between tokens -/

/-- Whether a character may stand between tokens. Tabs may not where a key could begin. -/
def isFiller (t : Tokens) (c : Char) : Bool :=
  c == ' ' || ((t.inFlow || !t.keyAllowed) && c == '\t')

/-- Moves to the next token, over spacing, comments and breaks, at most `fuel` lines. -/
def toNextFrom : Nat → Tokens → Tokens
  | 0, t => t
  | fuel + 1, t =>
    let c := (t.cursor.skipWhile t.isFiller).skipComment
    if c.peek.any isBreak then
      toNextFrom fuel { t with cursor := c.skipBreak, keyAllowed := t.keyAllowed || !t.inFlow }
    else { t with cursor := c }

/-- Moves to the next token. -/
def toNext (t : Tokens) : Tokens := toNextFrom (t.cursor.rest.length + 1) t

/-! ### Cutting one token -/

/-- Ends every block and gives up every key, as the parts of a stream do. -/
def endBlocks (t : Tokens) : Except Fault Tokens := do
  return { ← (t.closeBlocks (-1)).dropKey with keyAllowed := false }

def cutStreamStart (t : Tokens) : Tokens :=
  ({ t with started := true, keys := [none], keyAllowed := true }).push .streamStart t.mark t.mark

/-- The end of the stream counts as the start of a line. -/
def cutStreamEnd (t : Tokens) : Except Fault Tokens := do
  let m := t.mark
  let m := if m.column = 0 then m else ⟨m.index, m.line + 1, 0⟩
  let t ← endBlocks { t with cursor := ⟨t.cursor.rest, m⟩ }
  return t.push .streamEnd m m

def cutDirective (t : Tokens) : Except Fault Tokens := do
  let t ← t.endBlocks
  let start := t.mark
  let (value, stop, c) ← readDirective t.cursor
  return ({ t with cursor := c }).push (.directive value) start stop

def cutDocumentMarker (t : Tokens) (kind : TokenKind) : Except Fault Tokens := do
  return (← t.endBlocks).pushIndicator kind 3

def cutFlowStart (t : Tokens) (kind : TokenKind) : Except Fault Tokens := do
  let t ← t.saveKey
  return ({ t with keys := none :: t.keys, keyAllowed := true }).pushIndicator kind 1

def cutFlowEnd (t : Tokens) (kind : TokenKind) : Except Fault Tokens := do
  let t ← t.dropKey
  let keys := if t.inFlow then t.keys.tail else t.keys
  return ({ t with keys := keys, keyAllowed := false }).pushIndicator kind 1

def cutFlowEntry (t : Tokens) : Except Fault Tokens := do
  return ({ ← t.dropKey with keyAllowed := true }).pushIndicator .flowEntry 1

def cutBlockEntry (t : Tokens) : Except Fault Tokens := do
  if !t.inFlow && !t.keyAllowed then throw (.plain .sequenceEntryNotAllowed t.mark)
  let t := t.openBlock .blockSequenceStart none t.mark
  return ({ ← t.dropKey with keyAllowed := true }).pushIndicator .blockEntry 1

def cutKey (t : Tokens) : Except Fault Tokens := do
  if !t.inFlow && !t.keyAllowed then throw (.plain .mappingKeyNotAllowed t.mark)
  let t := t.openBlock .blockMappingStart none t.mark
  return ({ ← t.dropKey with keyAllowed := !t.inFlow }).pushIndicator .key 1

/-- A colon settles a possible key, in front of which the token for a key is put in. -/
def cutValue (t : Tokens) : Except Fault Tokens := do
  match t.possibleKey? with
  | some key =>
    let t := t.insertAt key.number ⟨.key, key.mark, key.mark⟩
    let t := (t.openBlock .blockMappingStart (some key.number) key.mark).setKey none
    return ({ t with keyAllowed := false }).pushIndicator .value 1
  | none =>
    if !t.inFlow && !t.keyAllowed then throw (.plain .mappingValueNotAllowed t.mark)
    let t := t.openBlock .blockMappingStart none t.mark
    return ({ t with keyAllowed := !t.inFlow }).pushIndicator .value 1

/-- Adds a token that may begin a key, as read at the cursor. -/
def pushRead (t : Tokens) (kind : TokenKind) (c : Cursor) : Tokens :=
  ({ t with cursor := c, keyAllowed := false }).push kind t.mark c.mark

def cutName (t : Tokens) (task : Task) (kind : String → TokenKind) : Except Fault Tokens := do
  let t ← t.saveKey
  let (name, c) ← readName task t.cursor
  return t.pushRead (kind name) c

def cutTag (t : Tokens) : Except Fault Tokens := do
  let t ← t.saveKey
  let (tag, c) ← readTag t.inFlow t.cursor
  return t.pushRead (.tag tag) c

def cutQuoted (t : Tokens) (single : Bool) : Except Fault Tokens := do
  let t ← t.saveKey
  let (text, c) ← readQuoted single t.cursor
  return t.pushRead (.scalar text (if single then .singleQuoted else .doubleQuoted)) c

def cutBlockScalar (t : Tokens) (folded : Bool) : Except Fault Tokens := do
  let t ← t.dropKey
  let (text, stop, c) ← readBlock folded t.indent t.cursor
  return ({ t with cursor := c, keyAllowed := true }).push
    (.scalar text (if folded then .folded else .literal)) t.mark stop

/-- A line break behind a plain scalar makes room for a key. -/
def cutPlain (t : Tokens) : Except Fault Tokens := do
  let t ← t.saveKey
  let (plain, c) ← readPlain t.inFlow (t.indent + 1).toNat t.cursor
  return ({ t with cursor := c, keyAllowed := plain.broken }).push (.scalar plain.text .plain)
    t.mark plain.stop

/-- Characters that begin something other than a plain scalar. -/
def isIndicator (c : Char) : Bool := "-?:,[]\x7b\x7d#&*!|>'\"%@".contains c || c.toNat == 0x60

/-- Whether a plain scalar may begin here. -/
def startsPlain (t : Tokens) : Bool :=
  let c := t.cursor
  (!endsWord c.peek && !c.peek.any isIndicator)
    || (c.sees '-' && !(c.ahead 1).any isSpacing)
    || (!t.inFlow && (c.sees '?' || c.sees ':') && !endsWord (c.ahead 1))

/-- Cuts the token at the cursor. -/
def cutHere (t : Tokens) : Except Fault Tokens :=
  let c := t.cursor
  let apart := endsWord (c.ahead 1)
  match c.peek with
  | none => t.cutStreamEnd
  | some ch =>
    if c.mark.column = 0 ∧ ch = '%' then t.cutDirective
    else if c.atMarker ['-', '-', '-'] then t.cutDocumentMarker .documentStart
    else if c.atMarker ['.', '.', '.'] then t.cutDocumentMarker .documentEnd
    else if ch = '[' then t.cutFlowStart .flowSequenceStart
    else if ch = '{' then t.cutFlowStart .flowMappingStart
    else if ch = ']' then t.cutFlowEnd .flowSequenceEnd
    else if ch = '}' then t.cutFlowEnd .flowMappingEnd
    else if ch = ',' then t.cutFlowEntry
    else if ch = '-' ∧ apart then t.cutBlockEntry
    else if ch = '?' ∧ (t.inFlow || apart) then t.cutKey
    else if ch = ':' ∧ (t.inFlow || apart) then t.cutValue
    else if ch = '*' then t.cutName .alias .alias
    else if ch = '&' then t.cutName .anchor .anchor
    else if ch = '!' then t.cutTag
    else if ch = '|' ∧ !t.inFlow then t.cutBlockScalar false
    else if ch = '>' ∧ !t.inFlow then t.cutBlockScalar true
    else if ch = '\'' then t.cutQuoted true
    else if ch = '"' then t.cutQuoted false
    else if t.startsPlain then t.cutPlain
    else .error (.during .nextToken t.mark .noToken t.mark)

/-- Cuts the next token. -/
def cut (t : Tokens) : Except Fault Tokens :=
  if !t.started then .ok t.cutStreamStart
  else do
    let t ← t.toNext.dropStaleKeys
    (t.closeBlocks t.mark.column).cutHere

/-! ### Taking tokens -/

/-- Whether the token in front is settled: it may not turn out to begin a key. -/
def isSettled (t : Tokens) : Bool :=
  !t.queue.isEmpty && !t.keys.any fun k => k.any (·.number == t.taken)

/-- Cuts tokens until the one in front is settled, at most `fuel` of them. -/
def readyWithin : Nat → Tokens → Except Fault Tokens
  | 0, t => .ok t
  | fuel + 1, t => do
    let t ← if t.queue.isEmpty then .ok t else t.dropStaleKeys
    if t.isSettled then return t
    readyWithin fuel (← t.cut)

/-- Cuts tokens until the one in front is settled. -/
def ready (t : Tokens) : Except Fault Tokens := readyWithin (t.cursor.rest.length + 3) t

/-- The token in front. -/
def head? (t : Tokens) : Option Token := t.queue.head?

/-- Takes the token in front. -/
def advance (t : Tokens) : Tokens := { t with queue := t.queue.tail, taken := t.taken + 1 }

end Tokens

end Gatehouse.Yaml
