import Gatehouse.Text.Blank
import Gatehouse.Text.Utf8

namespace Gatehouse.Http

/-!
# Header fields

Field names are ASCII tokens in lower case, values are bytes. A name may occur several times; the
values of one name keep their order.

* `FieldName.parse?`, `isValueByte`, `isValue` — which names and values are admitted;
* `Headers` — the fields of a message in the order they were added, with `append`, `insert`,
  `remove`, `first?`, `getAll`;
* `valueText?` — the value as text, where it consists of visible ASCII, spaces and tabs.
-/

/-- The characters of a token: visible ASCII without delimiters. -/
def isTokenChar (c : Char) : Bool :=
  c.isAlphanum || "!#$%&'*+-.^_|~".contains c || c.toNat == 0x60

/-- A field name in lower case. -/
structure FieldName where
  text : String
  deriving DecidableEq, Repr, Inhabited

namespace FieldName

/-- The longest field name admitted. -/
def maxLength : Nat := 65535

/-- Reads a field name: a non-empty token, lower-cased. -/
def parse? (name : List Char) : Option FieldName :=
  if name.isEmpty || name.length > maxLength || !name.all isTokenChar then none
  else some ⟨String.ofList (Text.lower name)⟩

def contentLength : FieldName := ⟨"content-length"⟩
def contentType : FieldName := ⟨"content-type"⟩
def cookie : FieldName := ⟨"cookie"⟩
def host : FieldName := ⟨"host"⟩
def setCookie : FieldName := ⟨"set-cookie"⟩
def transferEncoding : FieldName := ⟨"transfer-encoding"⟩

end FieldName

/-- Bytes a field value may hold: tab, and everything from space upwards except DEL. -/
def isValueByte (b : UInt8) : Bool := b == 9 || (0x20 ≤ b.toNat && b.toNat != 0x7F)

/-- Whether the bytes form a field value. -/
def isValue (bytes : Bytes) : Bool := bytes.all isValueByte

/-- Bytes a field value may hold to be readable as text: visible ASCII, space and tab. -/
def isTextByte (b : UInt8) : Bool := b == 9 || (0x20 ≤ b.toNat && b.toNat < 0x7F)

/-- The value as text, unless it holds a byte that is not visible ASCII, space or tab. -/
def valueText? (value : Bytes) : Option (List Char) :=
  if value.all isTextByte then some (value.map fun b => Char.ofNat b.toNat) else none

/-- Decimal digits of a number as a field value. -/
def decimalValue (n : Nat) : Bytes := Utf8.bytes (toString n)

/-- The header fields of a message, in the order they were added. -/
structure Headers where
  fields : List (FieldName × Bytes)
  deriving DecidableEq, Repr, Inhabited

namespace Headers

/-- No fields at all. -/
def empty : Headers := ⟨[]⟩

/-- All values of a name, in order. -/
def getAll (h : Headers) (name : FieldName) : List Bytes :=
  h.fields.filterMap fun f => if f.1 = name then some f.2 else none

/-- The first value of a name. -/
def first? (h : Headers) (name : FieldName) : Option Bytes := (h.getAll name).head?

/-- Whether the name occurs. -/
def contains (h : Headers) (name : FieldName) : Bool := h.fields.any (·.1 = name)

/-- Adds a value behind those the name already has. -/
def append (h : Headers) (name : FieldName) (value : Bytes) : Headers :=
  ⟨h.fields ++ [(name, value)]⟩

/-- Removes every value of a name. -/
def remove (h : Headers) (name : FieldName) : Headers := ⟨h.fields.filter (·.1 ≠ name)⟩

/-- Makes `value` the only value of a name. -/
def insert (h : Headers) (name : FieldName) (value : Bytes) : Headers :=
  (h.remove name).append name value

/-- The fields ordered by name; the values of one name keep their order. -/
def sorted (h : Headers) : List (FieldName × Bytes) :=
  h.fields.mergeSort fun a b => a.1.text ≤ b.1.text

@[simp] theorem getAll_empty (n : FieldName) : empty.getAll n = [] := rfl

@[simp] theorem getAll_append (h : Headers) (n m : FieldName) (v : Bytes) :
    (h.append n v).getAll m = h.getAll m ++ if n = m then [v] else [] := by
  by_cases hnm : n = m <;> simp [getAll, append, hnm]

@[simp] theorem getAll_remove_self (h : Headers) (n : FieldName) : (h.remove n).getAll n = [] := by
  simp [getAll, remove, List.filterMap_eq_nil_iff]

theorem getAll_remove_of_ne (h : Headers) {n m : FieldName} (hnm : n ≠ m) :
    (h.remove n).getAll m = h.getAll m := by
  unfold getAll remove
  induction h.fields with
  | nil => rfl
  | cons f fs ih =>
    by_cases hf : f.1 = n
    · simp [hf, hnm] at ih ⊢
      exact ih
    · by_cases hm : f.1 = m <;> simp_all

@[simp] theorem getAll_insert_self (h : Headers) (n : FieldName) (v : Bytes) :
    (h.insert n v).getAll n = [v] := by
  simp [insert]

theorem getAll_insert_of_ne (h : Headers) {n m : FieldName} (hnm : n ≠ m) (v : Bytes) :
    (h.insert n v).getAll m = h.getAll m := by
  simp [insert, hnm, getAll_remove_of_ne]

end Headers

end Gatehouse.Http
