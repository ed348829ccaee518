import Gatehouse.Yaml.Node

namespace Gatehouse.Yaml

/-!
# Documents

* `Document` — the first document of a text: its tree, the nodes its aliases refer to, its fault,
  and whether another document follows;
* `Document.ofText` — reads it;
* `Document.resolve` — the node a reference stands for.
-/

/-- What is wrong with a document: its form, or an alias without an anchor. -/
inductive DocumentFault where
  | form (fault : Fault)
  | unknownAnchor (mark : Mark)
  deriving DecidableEq, Repr

/-- A text with a place behind it; the start of the text is not named. -/
def placed (text : String) (m : Mark) : String :=
  if m.isOrigin then text else text ++ " at " ++ m.text

/-- The wording of a document fault. -/
def DocumentFault.message : DocumentFault → String
  | .form fault => fault.message
  | .unknownAnchor mark => placed "unknown anchor" mark

/-- The first document of a text. -/
structure Document where
  root : Node
  anchors : List (Nat × Node)
  fault : Option DocumentFault
  more : Bool
  deriving Repr, Inhabited

/-! ### Reading -/

/-- A document under construction. Anchors are numbered by how many names there were before. -/
structure Draft where
  growth : Growth
  names : List (String × Nat)

namespace Draft

/-- Nothing read yet. -/
def start : Draft := ⟨.start, []⟩

/-- Numbers an anchor. A name that was used before gets the new number. -/
def number (d : Draft) : Option String → Option Nat × Draft
  | none => (none, d)
  | some name =>
    (some d.names.length, { d with names := (name, d.names.length) :: d.names.eraseP (·.1 == name) })

/-- A finished document. -/
def finish (root : Node) (fault : Option DocumentFault) (more : Bool) : Document :=
  ⟨root, root.anchored, fault, more⟩

/-- A document that breaks off. -/
def cutOff (d : Draft) (fault : DocumentFault) : Document :=
  finish d.growth.cutOff (some fault) false

end Draft

/-- Whether anything follows a document. -/
def followed (s : Events) : Bool :=
  match s.next with
  | .ok (e, _) => e.kind != .streamEnd
  | .error _ => true

/-- Reads the rest of a document, at most `fuel` events. -/
def readRest : Nat → Draft → Events → Document
  | 0, d, _ => Draft.finish d.growth.cutOff none false
  | fuel + 1, d, s =>
    match s.next with
    | .error f => d.cutOff (.form f)
    | .ok (e, s) =>
      match e.kind with
      | .streamStart | .documentStart => readRest fuel d s
      | .streamEnd => Draft.finish (d.growth.root.getD (.absent e.mark)) none false
      | .documentEnd => Draft.finish d.growth.cutOff none (followed s)
      | .alias name =>
        match d.names.find? (·.1 == name) with
        | none => d.cutOff (.unknownAnchor e.mark)
        | some (_, n) => readRest fuel { d with growth := d.growth.place (.alias e.mark n) } s
      | .scalar anchor tag text style =>
        let (n, d) := d.number anchor
        readRest fuel { d with growth := d.growth.place (.scalar ⟨e.mark, n, tag⟩ text style) } s
      | .sequenceStart anchor tag =>
        let (n, d) := d.number anchor
        readRest fuel { d with growth := d.growth.begin (.sequence ⟨e.mark, n, tag⟩ []) } s
      | .mappingStart anchor tag =>
        let (n, d) := d.number anchor
        readRest fuel { d with growth := d.growth.begin (.mapping ⟨e.mark, n, tag⟩ [] none) } s
      | .sequenceEnd | .mappingEnd => readRest fuel { d with growth := d.growth.finish } s

/-! ### Characters -/

/-- Whether a character may occur in a text. -/
def isAllowed (c : Char) : Bool :=
  let n := c.toNat
  c == '\t' || c == '\n' || c == '\r' || (0x20 ≤ n && n ≤ 0x7E) || n == 0x85
    || (0xA0 ≤ n && n ≤ 0xD7FF) || (0xE000 ≤ n && n ≤ 0xFFFD && n != 0xFEFF) || 0x10000 ≤ n

/-- The offset in bytes of the first character that may not occur. -/
def forbiddenOffset? (text : List Char) : Option Nat :=
  if text.all isAllowed then none else some (Utf8.size (text.takeWhile isAllowed))

namespace Document

/-- How many events a text of some length can have at most. -/
def maxEvents (length : Nat) : Nat := 8 * length + 32

/-- The first document of a text. Nothing is read of a text with characters that may not occur. -/
def ofText (text : List Char) : Document :=
  match forbiddenOffset? text with
  | some offset => Draft.start.cutOff (.form (.atOffset .controlCharacter offset))
  | none => readRest (maxEvents text.length) .start (.ofText text)

/-- The node with an anchor; of several with one number the last. -/
def target? (d : Document) (n : Nat) : Option Node := (d.anchors.findRev? (·.1 == n)).map (·.2)

/-- The node a reference stands for; other nodes stand for themselves. -/
def resolve (d : Document) : Node → Node
  | .alias m n => (d.target? n).getD (.alias m n)
  | n => n

end Document

end Gatehouse.Yaml
