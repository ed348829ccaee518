import Gatehouse.Encoding.Der
import Gatehouse.Text.Blank

namespace Gatehouse.Certificate

/-!
# Names of subjects and issuers

A name is a list of relative names, and each of these a list of attributes.

* `Attribute`, `Name`, `Name.ofContent` — the attributes of a name. What follows a malformed part
  does not count;
* `typeText` — the abbreviation of an attribute type, or its numbers;
* `Name.text?` — the name in one line; none if a text in it is not well-formed.
-/

/-- An attribute: the encoded type and the value. -/
structure Attribute where
  type : Bytes
  value : Der.Element
  deriving DecidableEq, Repr

/-- A name. -/
abbrev Name := List (List Attribute)

/-! ### Reading -/

/-- Reads values as long as that succeeds, at most `fuel` of them. -/
def readMany {α : Type} (read : Bytes → Except Der.Fault (α × Bytes)) :
    Nat → Bytes → List α × Bytes
  | 0, bs => ([], bs)
  | fuel + 1, bs =>
    match read bs with
    | .error _ => ([], bs)
    | .ok (a, rest) =>
      let (as, rest) := readMany read fuel rest
      (a :: as, rest)

/-- Reads an attribute. -/
def readAttribute (bs : Bytes) : Except Der.Fault (Attribute × Bytes) := do
  let (content, rest) ← Der.readAs Der.sequence bs
  let (type, value) ← Der.readAs Der.objectIdentifier content
  let (value, _) ← Der.readElement value
  return (⟨type, value⟩, rest)

/-- Reads a relative name, which has at least one attribute. -/
def readRelative (bs : Bytes) : Except Der.Fault (List Attribute × Bytes) := do
  let (content, rest) ← Der.readAs Der.set bs
  match (readMany readAttribute content.length content).1 with
  | [] => throw .length
  | attributes => return (attributes, rest)

/-- The name in a content. -/
def Name.ofContent (content : Bytes) : Name := (readMany readRelative content.length content).1

/-! ### Types -/

/-- Types of the directory standard, by their last number. -/
def directoryTypes : List (UInt8 × String) :=
  [(0, "objectClass"), (1, "aliasedEntryName"), (2, "knowledgeInformation"), (3, "CN"),
    (4, "surname"), (5, "serialNumber"), (6, "C"), (7, "L"), (8, "ST"), (9, "streetAddress"),
    (10, "O"), (11, "OU"), (12, "title"), (13, "description"), (14, "searchGuide"),
    (15, "businessCategory"), (16, "postalAddress"), (17, "postalCode"), (41, "name"),
    (42, "givenName"), (43, "initials"), (44, "generationQualifier"), (45, "uniqueIdentifier"),
    (46, "dnQualifier")]

/-- Other types, by their encoding. -/
def otherTypes : List (Bytes × String) :=
  [([9, 146, 38, 137, 147, 242, 44, 100, 1, 1], "uid"),
    ([9, 146, 38, 137, 147, 242, 44, 100, 1, 25], "DC"),
    ([42, 134, 72, 134, 247, 13, 1, 9, 1], "Email"),
    ([42, 134, 72, 134, 247, 13, 1, 9, 2], "unstructuredName"),
    ([43, 6, 1, 4, 1, 130, 55, 60, 2, 1, 1], "msJurisdictionLocality"),
    ([43, 6, 1, 4, 1, 130, 55, 60, 2, 1, 2], "msJurisdictionStateOrProvince"),
    ([43, 6, 1, 4, 1, 130, 55, 60, 2, 1, 3], "msJurisdictionCountry")]

/-- The abbreviation of a type. -/
def abbreviation? (type : Bytes) : Option String :=
  match type with
  | [85, 4, n] => directoryTypes.lookup n
  | _ => otherTypes.lookup type

/-- Reads numbers in base 128; the last byte of each has no continuation bit. -/
def arcs : Nat → Bytes → List Nat
  | _, [] => []
  | n, [b] => [n * 128 + b.toNat % 128]
  | n, b :: rest =>
    let n := n * 128 + b.toNat % 128
    if b.toNat < 128 then n :: arcs 0 rest else arcs n rest

/-- The length in bytes of the longest number in base 128 that ends. -/
def longestArc : Nat → Bytes → Nat
  | _, [] => 0
  | n, b :: rest =>
    if b.toNat < 128 then max (n + 1) (longestArc 0 rest) else longestArc (n + 1) rest

/-- The most bytes of a number that is shown. -/
def maxArcBytes : Nat := 9

/-- A byte as two hexadecimal digits. -/
def hexByte (upper : Bool) (b : UInt8) : List Char :=
  let ds := [b.toNat / 16, b.toNat % 16].map Nat.digitChar
  if upper then ds.map Char.toUpper else ds

/-- The numbers of a type; the first byte holds two of them. -/
def numbers : Bytes → List Nat
  | [] => []
  | [b] => if b = 0 then [0] else [b.toNat / 40, b.toNat % 40]
  | b :: rest => b.toNat / 40 :: b.toNat % 40 :: arcs 0 rest

/-- The numbers of a type with points in between. -/
def numbersText (type : Bytes) : String :=
  if maxArcBytes < longestArc 0 (type.drop 1) then
    " ".intercalate (type.map fun b => String.ofList (hexByte false b))
  else ".".intercalate ((numbers type).map toString)

/-- The abbreviation of a type, or its numbers. -/
def typeText (type : Bytes) : String :=
  (abbreviation? type).getD ("OID(" ++ numbersText type ++ ")")

/-! ### Values -/

/-- Tag numbers of strings of bytes. -/
def stringTags : List Nat := [7, 12, 18, 19, 20, 21, 22, 25, 26, 27]

/-- The tag number of strings of pairs of bytes. -/
def pairStringTag : Nat := 30

/-- The units of a string of pairs of bytes. -/
def pairs? : Bytes → Option (List Nat)
  | [] => some []
  | a :: b :: rest => (pairs? rest).map ((a.toNat * 256 + b.toNat) :: ·)
  | _ => none

/-- The characters of 16-bit units. -/
def ofUnits? : List Nat → Option (List Char)
  | [] => some []
  | u :: rest =>
    if u < 0xD800 ∨ 0xE000 ≤ u then (ofUnits? rest).map (Char.ofNat u :: ·)
    else match rest with
      | v :: rest =>
        if u < 0xDC00 ∧ 0xDC00 ≤ v ∧ v < 0xE000 then
          (ofUnits? rest).map (Char.ofNat (0x10000 + (u - 0xD800) * 0x400 + (v - 0xDC00)) :: ·)
        else none
      | [] => none

/-- The text of a value. One that is not a string is shown in hexadecimal digits. -/
def valueText? (e : Der.Element) : Option (List Char) :=
  if stringTags.contains e.header.number then Utf8.decode? e.content
  else if e.header.number = pairStringTag then (pairs? e.content).bind ofUnits?
  else some (e.content.flatMap (hexByte true))

/-! ### Names -/

/-- The text of an attribute. -/
def Attribute.text? (a : Attribute) : Option String :=
  (valueText? a.value).map fun v => typeText a.type ++ "=" ++ String.ofList v

/-- The text of a relative name. -/
def relativeText? (as : List Attribute) : Option String :=
  (as.mapM Attribute.text?).map (" + ".intercalate ·)

/-- The text of a name. -/
def Name.text? (n : Name) : Option String := (n.mapM relativeText?).map (", ".intercalate ·)

/-- What stands for a name with a malformed text. -/
def malformedName : String := "<X509Error: Invalid X.509 name>"

/-- The text of a name, malformed or not. -/
def Name.text (n : Name) : String := n.text?.getD malformedName

end Gatehouse.Certificate
