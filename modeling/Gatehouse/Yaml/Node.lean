import Gatehouse.Yaml.Event

namespace Gatehouse.Yaml

/-!
# Nodes

The tree that the events of a document describe. A text with a fault still has the nodes in front
of it; where it breaks off there is a leaf that says so.

* `Node` — scalars, sequences, mappings, and references to nodes with an anchor;
* `Node.anchored` — the nodes with an anchor, in the order they begin;
* `Growth` — a tree under construction; `Growth.open`, `Growth.place`, `Growth.close`.
-/

/-- What stands in front of a node: its place, the number of its anchor, its tag. -/
structure Head where
  mark : Mark
  anchor : Option Nat
  tag : Option String
  deriving DecidableEq, Repr, Inhabited

/-- A node of a document. An empty stream has the root `absent`; `cut` is where a text with a fault
    breaks off. -/
inductive Node where
  | scalar (head : Head) (text : String) (style : Style)
  | sequence (head : Head) (items : List Node)
  | mapping (head : Head) (entries : List (Node × Node))
  | alias (mark : Mark) (target : Nat)
  | absent (mark : Mark)
  | cut
  deriving Repr, Inhabited

namespace Node

/-- Where a node begins. -/
def mark : Node → Mark
  | .scalar h _ _ => h.mark
  | .sequence h _ => h.mark
  | .mapping h _ => h.mark
  | .alias m _ => m
  | .absent m => m
  | .cut => .origin

/-- A node below its anchor, if it has one. -/
def withAnchor (h : Head) (n : Node) : List (Nat × Node) := h.anchor.toList.map fun a => (a, n)

mutual

/-- The nodes with an anchor, in the order they begin. -/
def anchored : Node → List (Nat × Node)
  | .scalar h text style => withAnchor h (.scalar h text style)
  | .sequence h items => withAnchor h (.sequence h items) ++ anchoredItems items
  | .mapping h entries => withAnchor h (.mapping h entries) ++ anchoredEntries entries
  | .alias _ _ => []
  | .absent _ => []
  | .cut => []

/-- The nodes with an anchor in some items. -/
def anchoredItems : List Node → List (Nat × Node)
  | [] => []
  | n :: rest => n.anchored ++ anchoredItems rest

/-- The nodes with an anchor in some entries. -/
def anchoredEntries : List (Node × Node) → List (Nat × Node)
  | [] => []
  | e :: rest => e.1.anchored ++ e.2.anchored ++ anchoredEntries rest

end

end Node

/-! ### Growth -/

/-- A collection that was begun: what it holds so far, the last first, and in a mapping a key that
    has no value yet. -/
inductive Begun where
  | sequence (head : Head) (items : List Node)
  | mapping (head : Head) (entries : List (Node × Node)) (key : Option Node)
  deriving Repr, Inhabited

/-- The collection as a node. -/
def Begun.finish : Begun → Node
  | .sequence h items => .sequence h items.reverse
  | .mapping h entries _ => .mapping h entries.reverse

/-- Adds a node to a collection. In a mapping keys and values take turns. -/
def Begun.add (n : Node) : Begun → Begun
  | .sequence h items => .sequence h (n :: items)
  | .mapping h entries none => .mapping h entries (some n)
  | .mapping h entries (some k) => .mapping h ((k, n) :: entries) none

/-- A tree under construction: the collections that are open, the innermost first, and the root
    once it is finished. -/
structure Growth where
  stack : List Begun
  root : Option Node
  deriving Repr, Inhabited

namespace Growth

/-- No tree yet. -/
def start : Growth := ⟨[], none⟩

/-- Begins a collection. -/
def «begin» (g : Growth) (b : Begun) : Growth := { g with stack := b :: g.stack }

/-- Puts a finished node where the construction stands. -/
def place (g : Growth) (n : Node) : Growth :=
  match g.stack with
  | [] => { g with root := some n }
  | b :: outer => { g with stack := b.add n :: outer }

/-- Ends the innermost collection. -/
def finish (g : Growth) : Growth :=
  match g.stack with
  | [] => g
  | b :: outer => ({ g with stack := outer }).place b.finish

/-- Marks where the text breaks off: behind the last item, in place of a value, or as another
    entry. -/
def breakOff : Begun → Begun
  | .mapping h entries none => .mapping h ((.cut, .cut) :: entries) none
  | b => b.add .cut

/-- The node that the construction comes to when the text breaks off. -/
def cutFrom : List Begun → Node → Node
  | [], n => n
  | b :: outer, n => cutFrom outer (b.add n).finish

/-- The tree of a text that breaks off here. -/
def cutOff (g : Growth) : Node :=
  match g.stack, g.root with
  | [], some n => n
  | [], none => .cut
  | b :: outer, _ => cutFrom outer (breakOff b).finish

end Growth

end Gatehouse.Yaml
