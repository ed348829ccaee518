import Gatehouse.Yaml.Document
import Gatehouse.Yaml.Meaning

namespace Gatehouse.Yaml

/-!
# Reading values from nodes

* `Path` — the way from the root to a node, as messages show it;
* `Mismatch`, `DecodeFault` — why a node is not the value that was asked for;
* `Spot` — a node in its document; `Spot.natural`, `Spot.flag`, `Spot.text`, `Spot.optional`,
  `Spot.sequence`, `Spot.choice`, `Spot.record` — the values.
-/

/-! ### Paths -/

/-- The way from the root to a node. A key that is not a scalar has no name. -/
inductive Path where
  | root
  | item (parent : Path) (index : Nat)
  | field (parent : Path) (key : String)
  | unnamed (parent : Path)
  deriving DecidableEq, Repr, Inhabited

namespace Path

/-- The way as a text. -/
def text : Path → String
  | .root => "."
  | .item parent index => parent.text ++ "[" ++ toString index ++ "]"
  | .field .root key => key
  | .field parent key => parent.text ++ "." ++ key
  | .unnamed .root => "?"
  | .unnamed parent => parent.text ++ ".?"

end Path

/-! ### Faults -/

/-- Why a node is not the value that was asked for. -/
inductive Mismatch where
  | type (found expected : String)
  | value (found expected : String)
  | unknownField (name : String) (known : List String)
  | unknownVariant (name : String) (known : List String)
  | duplicateField (name : String)
  | missingField (name : String)
  deriving DecidableEq, Repr

/-- A list of names in a message. -/
def namesText : List String → String
  | [] => ""
  | [a] => "`" ++ a ++ "`"
  | [a, b] => "`" ++ a ++ "` or `" ++ b ++ "`"
  | names => "one of " ++ ", ".intercalate (names.map fun n => "`" ++ n ++ "`")

/-- The wording of a mismatch. -/
def Mismatch.message : Mismatch → String
  | .type found expected => "invalid type: " ++ found ++ ", expected " ++ expected
  | .value found expected => "invalid value: " ++ found ++ ", expected " ++ expected
  | .unknownField name known => "unknown field `" ++ name ++ "`, expected " ++ namesText known
  | .unknownVariant name known => "unknown variant `" ++ name ++ "`, expected " ++ namesText known
  | .duplicateField name => "duplicate field `" ++ name ++ "`"
  | .missingField name => "missing field `" ++ name ++ "`"

/-- Why a value cannot be read: the text breaks off, or a node does not fit. -/
inductive DecodeFault where
  | cut
  | mismatch (what : Mismatch) (place : Option (Mark × Path))
  deriving DecidableEq, Repr

namespace DecodeFault

/-- Says where a mismatch is, unless that is known. -/
def locate (m : Mark) (p : Path) : DecodeFault → DecodeFault
  | .mismatch what none => .mismatch what (some (m, p))
  | f => f

/-- The wording, for a document with the given fault. -/
def message (document : Option DocumentFault) : DecodeFault → String
  | .cut => (document.map DocumentFault.message).getD "EOF while parsing a value"
  | .mismatch what none => what.message
  | .mismatch what (some (m, p)) =>
    placed ((if p = .root then "" else p.text ++ ": ") ++ what.message) m

end DecodeFault

/-- What a reader of values gives. -/
abbrev Decoded (α : Type) := Except DecodeFault α

/-! ### Nodes in their document -/

/-- A node in its document. -/
structure Spot where
  document : Document
  path : Path
  node : Node
  deriving Inhabited

namespace Spot

/-- The node, or the one it refers to. -/
def target (s : Spot) : Node := s.document.resolve s.node

/-- A mismatch whose place is still to be said. -/
def fail {α : Type} (what : Mismatch) : Decoded α := .error (.mismatch what none)

/-- Places the faults of a reader at the node. -/
def located {α : Type} (s : Spot) (r : Decoded α) : Decoded α :=
  r.mapError (DecodeFault.locate s.target.mark s.path)

/-- Reports that a node is not of the type that was asked for. -/
def wrongType {α : Type} (expected : String) : Node → Decoded α
  | .scalar h text style =>
    match Meaning.ofScalar h.tag text style with
    | .ok m => fail (.type m.describe expected)
    | .error kind => fail (.value (Meaning.text text).describe kind.describe)
  | .sequence _ _ => fail (.type "sequence" expected)
  | .mapping _ _ => fail (.type "map" expected)
  | _ => .error .cut

/-! ### Scalars -/

/-- Whether a scalar may be read as a kind of value: if it is plain, or a literal with the tag of
    that kind. -/
def admits (kind : CoreTag) (tag : Option String) (style : Style) : Bool :=
  style == .plain || (style == .literal && tag == some kind.uri)

/-- A whole number up to a bound. -/
def natural (bound : Nat) (expected : String) (s : Spot) : Decoded Nat :=
  s.located <| match s.target with
    | .scalar h text style =>
      match if admits .int h.tag style then unsigned? maxWord text else none with
      | some n =>
        if n ≤ bound then .ok n else fail (.value (Meaning.integer n).describe expected)
      | none => wrongType expected (.scalar h text style)
    | n => wrongType expected n

/-- A truth value. -/
def flag (s : Spot) : Decoded Bool :=
  s.located <| match s.target with
    | .scalar h text style =>
      match if admits .bool h.tag style then truth? text else none with
      | some b => .ok b
      | none => wrongType "a boolean" (.scalar h text style)
    | n => wrongType "a boolean" n

/-- The text of a scalar of any kind. -/
def text (expected : String) (s : Spot) : Decoded String :=
  s.located <| match s.target with
    | .scalar _ text _ => .ok text
    | n => wrongType expected n

/-! ### Absent values -/

/-- Whether a scalar is left out. -/
def isBlankScalar : Node → Bool
  | .scalar _ text style => text.isEmpty && style == .plain
  | .absent _ => true
  | _ => false

/-- Whether a node holds a value. Faults are placed where the value belongs. -/
def holdsValue : Node → Decoded Bool
  | .scalar h text style =>
    if style ≠ .plain then .ok true
    else if h.tag = some CoreTag.null.uri then
      if isNull text then .ok false
      else fail (.value (Meaning.text text).describe CoreTag.null.describe)
    else if h.tag.isSome then .ok true
    else .ok !(text.isEmpty || isNull text)
  | .absent _ => .ok false
  | .cut => .error .cut
  | _ => .ok true

/-- A value that may be left out. -/
def optional {α : Type} (read : Spot → Decoded α) (s : Spot) : Decoded (Option α) := do
  if ← holdsValue s.target then return some (← read s) else return none

/-! ### Collections -/

/-- Reads the items of a sequence, in order. -/
def items {α : Type} (read : Spot → Decoded α) (s : Spot) : Nat → List Node → Decoded (List α)
  | _, [] => .ok []
  | i, n :: rest => do
    let a ← read ⟨s.document, .item s.path i, n⟩
    return a :: (← items read s (i + 1) rest)

/-- A sequence of values. -/
def sequence {α : Type} (read : Spot → Decoded α) (s : Spot) : Decoded (List α) :=
  s.located <| match s.target with
    | .sequence _ ns => items read s 0 ns
    | n => if isBlankScalar n then .ok [] else wrongType "a sequence" n

/-- The spot of a value in a mapping. -/
def valueOf (s : Spot) (key value : Node) : Spot :=
  match key with
  | .scalar _ text _ => ⟨s.document, .field s.path text, value⟩
  | _ => ⟨s.document, .unnamed s.path, value⟩

/-- The name of a field. -/
def fieldName (known : List String) (s : Spot) : Decoded String :=
  s.located do
    let name ← s.text "field identifier"
    if known.contains name then return name else fail (.unknownField name known)

/-- Reads the fields of a record in the order they are given; `set` takes the value of a field. -/
def fields {σ : Type} (known : List String) (set : String → Spot → σ → Decoded σ) (s : Spot) :
    List String → σ → List (Node × Node) → Decoded σ
  | _, acc, [] => .ok acc
  | seen, acc, (key, value) :: rest => do
    let name ← fieldName known ⟨s.document, s.path, key⟩
    if seen.contains name then fail (.duplicateField name)
    let acc ← set name (s.valueOf key value) acc
    fields known set s (name :: seen) acc rest

/-- A record with known fields, put together from what was collected of them. -/
def record {σ α : Type} (name : String) (known : List String) (start : σ)
    (set : String → Spot → σ → Decoded σ) (finish : σ → Except Mismatch α) (s : Spot) :
    Decoded α :=
  s.located <| match s.target with
    | .mapping _ entries => do
      let acc ← fields known set s [] start entries
      (finish acc).mapError (.mismatch · none)
    | n =>
      if isBlankScalar n then (finish start).mapError (.mismatch · none)
      else wrongType ("struct " ++ name) n

/-! ### Choices -/

/-- The name that a tag of one's own gives. -/
def tagName? (tag : Option String) : Option String :=
  match tag.map String.toList with
  | some ['!'] => some "!"
  | some ('!' :: name) => some (String.ofList name)
  | _ => none

/-- The value with a name. -/
def pick {α : Type} (variants : List (String × α)) (name : String) : Decoded α :=
  match variants.find? (·.1 == name) with
  | some (_, a) => .ok a
  | none => fail (.unknownVariant name (variants.map (·.1)))

/-- Checks that a choice made by a tag has nothing else to say. -/
def checkEmpty : Node → Decoded Unit
  | .scalar _ text style =>
    if style = .plain ∧ (text.isEmpty ∨ isNull text) then .ok ()
    else fail (.value (Meaning.text text).describe "null")
  | n => wrongType "unit" n

/-- A choice made by a tag. A tag that names nothing is reported where the value belongs. -/
def pickTagged {α : Type} (variants : List (String × α)) (name : String) (s : Spot) :
    Decoded α := do
  let a ← pick variants name
  s.located (checkEmpty s.target)
  return a

/-- A choice made by a collection, which needs a tag. -/
def pickCollection {α : Type} (variants : List (String × α)) (tag : Option String)
    (found : String) (s : Spot) : Decoded α :=
  match tagName? tag with
  | some name => s.pickTagged variants name
  | none => s.located (fail (.type found "a YAML tag starting with '!'"))

/-- One of several named values. -/
def choice {α : Type} (variants : List (String × α)) (s : Spot) : Decoded α :=
  let r : Decoded α := match s.target with
    | .scalar h text _ =>
      match tagName? h.tag with
      | some name => s.pickTagged variants name
      | none => s.located (pick variants text)
    | .sequence h _ => s.pickCollection variants h.tag "sequence"
    | .mapping h _ => s.pickCollection variants h.tag "map"
    | _ => .error .cut
  match s.node with
  | .alias m _ => r.mapError (DecodeFault.locate m s.path)
  | _ => r

end Spot

/-! ### Whole texts -/

/-- Why a text does not hold the value that was asked for. -/
inductive TextFault where
  | document (fault : DocumentFault)
  | value (fault : DecodeFault)
  | severalDocuments
  deriving DecidableEq, Repr

/-- The wording of a text fault. -/
def TextFault.message : TextFault → String
  | .document fault => fault.message
  | .value fault => fault.message none
  | .severalDocuments =>
    "deserializing from YAML containing more than one document is not supported"

/-- Reads the value of the only document of a text. -/
def decode {α : Type} (read : Spot → Decoded α) (text : List Char) : Except TextFault α :=
  let d := Document.ofText text
  match read ⟨d, .root, d.root⟩, d.fault with
  | .error .cut, some f => .error (.document f)
  | .error f, _ => .error (.value f)
  | .ok _, some f => .error (.document f)
  | .ok a, none => if d.more then .error .severalDocuments else .ok a

end Gatehouse.Yaml
