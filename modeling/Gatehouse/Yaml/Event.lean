import Gatehouse.Yaml.Token

namespace Gatehouse.Yaml

/-!
# Events

Tokens are read as the beginnings and ends of documents, collections and scalars. What may come
next is known from a stack of goals.

* `Event`, `EventKind` — what is found in a text, in order;
* `Events` — how far a text was read; `Events.ofText` — its beginning;
* `Events.next` — the next event.
-/

/-- What is found in a text. Anchors and tags stand in front of what they belong to. -/
inductive EventKind where
  | streamStart
  | streamEnd
  | documentStart
  | documentEnd
  | alias (name : String)
  | scalar (anchor tag : Option String) (text : String) (style : Style)
  | sequenceStart (anchor tag : Option String)
  | sequenceEnd
  | mappingStart (anchor tag : Option String)
  | mappingEnd
  deriving DecidableEq, Repr, Inhabited

/-- An event with the place where it starts. -/
structure Event where
  kind : EventKind
  mark : Mark
  deriving DecidableEq, Repr, Inhabited

/-- What may come next. -/
inductive Goal where
  | streamStart
  | firstDocument
  | nextDocument
  | documentContent
  | documentEnd
  | blockNode
  | blockSequenceFirst
  | blockSequenceEntry
  | indentlessEntry
  | blockMappingFirst
  | blockMappingKey
  | blockMappingValue
  | flowSequenceFirst
  | flowSequenceEntry
  | pairKey
  | pairValue
  | pairEnd
  | flowMappingFirst
  | flowMappingKey
  | flowMappingValue
  | flowMappingNoValue
  | finished
  deriving DecidableEq, Repr, Inhabited

/-- How far a text was read. `begins` holds the places where the open collections begin, `handles`
    the meanings of tag handles in the document. -/
structure Events where
  tokens : Tokens
  goal : Goal
  goals : List Goal
  begins : List Mark
  handles : List (String × String)
  deriving Repr, Inhabited

/-- A step of the reading. -/
abbrev Reading := StateT Events (Except Fault)

namespace Events

/-- The beginning of a text. -/
def ofText (text : List Char) : Events := ⟨.ofText text, .streamStart, [], [], []⟩

/-! ### Tokens and goals -/

/-- The token in front. -/
def peek : Reading Token := do
  let s ← get
  let tokens ← s.tokens.ready
  set { s with tokens := tokens }
  return tokens.head?.getD ⟨.streamEnd, tokens.mark, tokens.mark⟩

/-- Takes the token in front. -/
def skip : Reading Unit := modify fun s => { s with tokens := s.tokens.advance }

/-- Takes the token in front and looks at the one behind it. -/
def peekBehind : Reading Token := do
  skip
  peek

/-- Changes what may come next. -/
def setGoal (g : Goal) : Reading Unit := modify fun s => { s with goal := g }

/-- Notes what may come after the next node. -/
def pushGoal (g : Goal) : Reading Unit := modify fun s => { s with goals := g :: s.goals }

/-- Goes back to what was to come after a node. -/
def popGoal : Reading Unit :=
  modify fun s => { s with goal := s.goals.headD .finished, goals := s.goals.tail }

/-- Notes where a collection begins. -/
def pushBegin (m : Mark) : Reading Unit := modify fun s => { s with begins := m :: s.begins }

/-- Leaves a collection. -/
def popBegin : Reading Unit := modify fun s => { s with begins := s.begins.tail }

/-- Reports a problem inside the innermost collection. -/
def failInside (task : Task) (problem : Problem) (m : Mark) : Reading Event := do
  throw (.during task ((← get).begins.headD .origin) problem m)

/-- A value that is left out. -/
def emptyScalar (m : Mark) : Event := ⟨.scalar none none "" .plain, m⟩

/-- A value that is left out, in front of the given goal. -/
def leftOut (g : Goal) (m : Mark) : Reading Event := do
  setGoal g
  return emptyScalar m

/-! ### Directives and tags -/

/-- The tag handles that need no directive. -/
def defaultHandles : List (String × String) := [("!", "!"), ("!!", "tag:yaml.org,2002:")]

/-- Takes the directives in front of a document, at most `fuel` of them. -/
def readDirectives : Nat → Bool → Reading Unit
  | 0, _ => return
  | fuel + 1, versioned => do
    let token ← peek
    match token.kind with
    | .directive (.version major minor) =>
      if versioned then throw (.plain .duplicateVersion token.start)
      if !(major == 1 && (minor == 1 || minor == 2)) then
        throw (.plain .incompatibleVersion token.start)
      skip
      readDirectives fuel true
    | .directive (.tag handle stem) =>
      if (← get).handles.any (·.1 == handle) then
        throw (.plain .duplicateTagDirective token.start)
      modify fun s => { s with handles := s.handles ++ [(handle, stem)] }
      skip
      readDirectives fuel versioned
    | _ => return

/-- Takes all directives in front of a document. -/
def processDirectives : Reading Unit := do
  readDirectives ((← get).tokens.cursor.rest.length + 4) false
  modify fun s =>
    { s with handles := s.handles ++ defaultHandles.filter fun d =>
        !s.handles.any (·.1 == d.1) }

/-- A tag in full. -/
def expandTag (start : Mark) (tag : Tag) (m : Mark) : Reading String := do
  if tag.handle.isEmpty then return tag.suffix
  match (← get).handles.find? (·.1 == tag.handle) with
  | some (_, stem) => return stem ++ tag.suffix
  | none => throw (.during .node start .undefinedHandle m)

/-! ### Documents -/

def readStreamStart : Reading Event := do
  let token ← peek
  setGoal .firstDocument
  skip
  return ⟨.streamStart, token.start⟩

/-- Takes the ends of documents that were not begun, at most `fuel` of them. -/
def skipDocumentEnds : Nat → Reading Unit
  | 0 => return
  | fuel + 1 => do
    let token ← peek
    if token.kind = .documentEnd then
      skip
      skipDocumentEnds fuel

/-- Whether a token belongs to the head of a document that is begun in so many words. -/
def opensDocument : TokenKind → Bool
  | .directive _ => true
  | .documentStart => true
  | _ => false

/-- Reads the start of a document. Only the first one needs no marker. -/
def readDocumentStart (first : Bool) : Reading Event := do
  if !first then skipDocumentEnds ((← get).tokens.cursor.rest.length + 4)
  let token ← peek
  if token.kind = .streamEnd then
    setGoal .finished
    skip
    return ⟨.streamEnd, token.start⟩
  if first && !opensDocument token.kind then
    processDirectives
    pushGoal .documentEnd
    setGoal .blockNode
    return ⟨.documentStart, token.start⟩
  processDirectives
  let marker ← peek
  if marker.kind ≠ .documentStart then throw (.plain .documentStart marker.start)
  pushGoal .documentEnd
  setGoal .documentContent
  skip
  return ⟨.documentStart, token.start⟩

def readDocumentEnd : Reading Event := do
  let token ← peek
  if token.kind = .documentEnd then skip
  modify fun s => { s with handles := [], goal := .nextDocument }
  return ⟨.documentEnd, token.start⟩

/-! ### Nodes -/

/-- What stands in front of a node. -/
structure Properties where
  anchor : Option String
  tag : Option String
  start : Mark

/-- Takes an anchor, if one is in front. -/
def readAnchor : Reading (Option String) := do
  match (← peek).kind with
  | .anchor name => skip; return some name
  | _ => return none

/-- Takes a tag, if one is in front. -/
def readTagToken : Reading (Option (Tag × Mark)) := do
  let token ← peek
  match token.kind with
  | .tag tag => skip; return some (tag, token.start)
  | _ => return none

/-- Takes an anchor and a tag, in either order. -/
def readProperties : Reading Properties := do
  let start := (← peek).start
  let before ← readAnchor
  let tag ← readTagToken
  let anchor ← if before.isSome || tag.isNone then pure before else readAnchor
  let tag ← tag.mapM fun (t, m) => expandTag start t m
  return ⟨anchor, tag, start⟩

/-- Opens a collection, whose first token stays in front. -/
def openCollection (kind : EventKind) (m : Mark) (g : Goal) : Reading Event := do
  setGoal g
  return ⟨kind, m⟩

/-- Reads a node, or the beginning of one. A bare exclamation mark in front of a scalar says
    nothing. -/
def readNode (block indentless : Bool) : Reading Event := do
  let token ← peek
  if let .alias name := token.kind then
    popGoal
    skip
    return ⟨.alias name, token.start⟩
  let p ← readProperties
  let token ← peek
  match token.kind, block with
  | .scalar text style, _ =>
    popGoal
    skip
    return ⟨.scalar p.anchor (if p.tag = some "!" then none else p.tag) text style, p.start⟩
  | .flowSequenceStart, _ =>
    openCollection (.sequenceStart p.anchor p.tag) p.start .flowSequenceFirst
  | .flowMappingStart, _ =>
    openCollection (.mappingStart p.anchor p.tag) p.start .flowMappingFirst
  | .blockSequenceStart, true =>
    openCollection (.sequenceStart p.anchor p.tag) p.start .blockSequenceFirst
  | .blockMappingStart, true =>
    openCollection (.mappingStart p.anchor p.tag) p.start .blockMappingFirst
  | kind, _ =>
    if indentless && kind == .blockEntry then
      openCollection (.sequenceStart p.anchor p.tag) p.start .indentlessEntry
    else if p.anchor.isSome || p.tag.isSome then
      popGoal
      return ⟨.scalar p.anchor p.tag "" .plain, p.start⟩
    else
      throw (.during (if block then .blockNode else .flowNode) p.start .nodeContent token.start)

/-- Reads a node after which the given goal is to come. -/
def readNodeThen (g : Goal) (block indentless : Bool) : Reading Event := do
  pushGoal g
  readNode block indentless

def readDocumentContent : Reading Event := do
  let token ← peek
  if opensDocument token.kind || token.kind == .documentEnd || token.kind == .streamEnd then
    popGoal
    return emptyScalar token.start
  readNode true false

/-- Ends a collection with the token in front. -/
def endCollection (kind : EventKind) (m : Mark) : Reading Event := do
  popGoal
  popBegin
  skip
  return ⟨kind, m⟩

/-- Takes the token that begins a collection, if that was not done before. -/
def enter (first : Bool) : Reading Unit := do
  if first then
    pushBegin (← peek).start
    skip

/-! ### Blocks -/

def readBlockSequence (first : Bool) : Reading Event := do
  enter first
  let token ← peek
  match token.kind with
  | .blockEntry =>
    let behind ← peekBehind
    if behind.kind = .blockEntry ∨ behind.kind = .blockEnd then
      leftOut .blockSequenceEntry token.stop
    else readNodeThen .blockSequenceEntry true false
  | .blockEnd => endCollection .sequenceEnd token.start
  | _ => failInside .blockCollection .dashIndicator token.start

/-- Whether the next part of a block mapping begins with a token. -/
def endsMappingPart : TokenKind → Bool
  | .key => true
  | .value => true
  | .blockEnd => true
  | _ => false

/-- Reads an entry of a sequence that is indented no further than the mapping around it. -/
def readIndentlessEntry : Reading Event := do
  let token ← peek
  if token.kind = .blockEntry then
    let behind ← peekBehind
    if behind.kind = .blockEntry ∨ endsMappingPart behind.kind then
      leftOut .indentlessEntry token.stop
    else readNodeThen .indentlessEntry true false
  else
    popGoal
    return ⟨.sequenceEnd, token.start⟩

/-- Reads what stands behind the indicator of a key or value. -/
def readMappingPart (g : Goal) (token : Token) : Reading Event := do
  let behind ← peekBehind
  if endsMappingPart behind.kind then leftOut g token.stop
  else readNodeThen g true true

def readBlockMappingKey (first : Bool) : Reading Event := do
  enter first
  let token ← peek
  match token.kind with
  | .key => readMappingPart .blockMappingValue token
  | .blockEnd => endCollection .mappingEnd token.start
  | _ => failInside .blockMapping .key token.start

def readBlockMappingValue : Reading Event := do
  let token ← peek
  if token.kind = .value then readMappingPart .blockMappingKey token
  else leftOut .blockMappingKey token.start

/-! ### Brackets and braces -/

/-- Takes the comma between two entries. -/
def separate (first : Bool) (task : Task) (problem : Problem) (close : TokenKind) :
    Reading Token := do
  enter first
  let token ← peek
  if first || token.kind == close then return token
  if token.kind ≠ .flowEntry then
    throw (.during task ((← get).begins.headD .origin) problem token.start)
  peekBehind

def readFlowSequence (first : Bool) : Reading Event := do
  let token ← separate first .flowSequence .commaOrBracket .flowSequenceEnd
  match token.kind with
  | .flowSequenceEnd => endCollection .sequenceEnd token.start
  | .key =>
    setGoal .pairKey
    skip
    return ⟨.mappingStart none none, token.start⟩
  | _ => readNodeThen .flowSequenceEntry false false

/-- Reads the key of a pair inside brackets. In place of a key that is left out, the token behind
    it is taken. -/
def readPairKey : Reading Event := do
  let token ← peek
  match token.kind with
  | .value | .flowEntry | .flowSequenceEnd =>
    skip
    leftOut .pairValue token.stop
  | _ => readNodeThen .pairValue false false

def readPairValue : Reading Event := do
  let token ← peek
  if token.kind = .value then
    let behind ← peekBehind
    if behind.kind = .flowEntry ∨ behind.kind = .flowSequenceEnd then
      leftOut .pairEnd behind.start
    else readNodeThen .pairEnd false false
  else leftOut .pairEnd token.start

def readPairEnd : Reading Event := do
  setGoal .flowSequenceEntry
  return ⟨.mappingEnd, (← peek).start⟩

def readFlowMappingKey (first : Bool) : Reading Event := do
  let token ← separate first .flowMapping .commaOrBrace .flowMappingEnd
  match token.kind with
  | .flowMappingEnd => endCollection .mappingEnd token.start
  | .key =>
    let behind ← peekBehind
    match behind.kind with
    | .value | .flowEntry | .flowMappingEnd => leftOut .flowMappingValue behind.start
    | _ => readNodeThen .flowMappingValue false false
  | _ => readNodeThen .flowMappingNoValue false false

def readFlowMappingValue : Reading Event := do
  let token ← peek
  if token.kind = .value then
    let behind ← peekBehind
    if behind.kind = .flowEntry ∨ behind.kind = .flowMappingEnd then
      leftOut .flowMappingKey behind.start
    else readNodeThen .flowMappingKey false false
  else leftOut .flowMappingKey token.start

/-! ### The next event -/

/-- Reads the next event. -/
def readNext : Reading Event := do
  match (← get).goal with
  | .streamStart => readStreamStart
  | .firstDocument => readDocumentStart true
  | .nextDocument => readDocumentStart false
  | .documentContent => readDocumentContent
  | .documentEnd => readDocumentEnd
  | .blockNode => readNode true false
  | .blockSequenceFirst => readBlockSequence true
  | .blockSequenceEntry => readBlockSequence false
  | .indentlessEntry => readIndentlessEntry
  | .blockMappingFirst => readBlockMappingKey true
  | .blockMappingKey => readBlockMappingKey false
  | .blockMappingValue => readBlockMappingValue
  | .flowSequenceFirst => readFlowSequence true
  | .flowSequenceEntry => readFlowSequence false
  | .pairKey => readPairKey
  | .pairValue => readPairValue
  | .pairEnd => readPairEnd
  | .flowMappingFirst => readFlowMappingKey true
  | .flowMappingKey => readFlowMappingKey false
  | .flowMappingValue => readFlowMappingValue
  | .flowMappingNoValue => do leftOut .flowMappingKey (← peek).start
  | .finished => return ⟨.streamEnd, (← get).tokens.mark⟩

/-- The next event. -/
def next (s : Events) : Except Fault (Event × Events) := readNext s

end Events

end Gatehouse.Yaml
