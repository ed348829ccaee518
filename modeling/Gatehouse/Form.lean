import Gatehouse.Text.Utf8

namespace Gatehouse

/-!
# Form data

Fields of a body of type `application/x-www-form-urlencoded`, in the order they were sent.

* `Form.parse` — pieces at `&`, empty ones skipped; name and value at the first `=`; a plus sign
  stands for a space and `%XX` for a byte; ill-formed UTF-8 is replaced;
* `Form.first?`, `Form.getAll` — the values sent for a name.
-/

/-- The fields of a form. -/
structure Form where
  fields : List (String × String)
  deriving DecidableEq, Repr, Inhabited

namespace Form

/-- Splits at every occurrence of a byte, keeping empty pieces. The pieces are collected in reverse
    order, which bounds the stack on long bodies. -/
def splitAux (sep : UInt8) (piece : Bytes) (done : List Bytes) : Bytes → List Bytes
  | [] => (piece.reverse :: done).reverse
  | b :: bs =>
    if b = sep then splitAux sep [] (piece.reverse :: done) bs
    else splitAux sep (b :: piece) done bs

/-- Splits at every occurrence of a byte, keeping empty pieces. -/
def splitBytes (sep : UInt8) (bs : Bytes) : List Bytes := splitAux sep [] [] bs

/-- The value of a hexadecimal digit. -/
def hexValue? (b : UInt8) : Option UInt8 :=
  if 0x30 ≤ b && b ≤ 0x39 then some (b - 0x30)
  else if 0x41 ≤ b && b ≤ 0x46 then some (b - 0x41 + 10)
  else if 0x61 ≤ b && b ≤ 0x66 then some (b - 0x61 + 10)
  else none

/-- Undoes the escapes of a piece, onto an accumulator kept in reverse. A percent sign that two
    hexadecimal digits do not follow stands for itself. -/
def unescapeAux (acc : Bytes) : Bytes → Bytes
  | [] => acc.reverse
  | b :: bs =>
    if b = 0x2B then unescapeAux (0x20 :: acc) bs
    else if b = 0x25 then
      match bs with
      | h :: l :: rest =>
        match hexValue? h, hexValue? l with
        | some x, some y => unescapeAux ((x * 16 + y) :: acc) rest
        | _, _ => unescapeAux (b :: acc) (h :: l :: rest)
      | short => unescapeAux (b :: acc) short
    else unescapeAux (b :: acc) bs
termination_by bs => bs.length

/-- The text a piece stands for. -/
def unescape (piece : Bytes) : String := String.ofList (Utf8.decodeLossy (unescapeAux [] piece))

/-- Reads one piece; without `=` the whole piece is the name. -/
def readField (piece : Bytes) : String × String :=
  (unescape (piece.takeWhile (· != 0x3D)), unescape ((piece.dropWhile (· != 0x3D)).drop 1))

/-- Reads a form. -/
def parse (body : Bytes) : Form :=
  ⟨((splitBytes 0x26 body).filter (!·.isEmpty)).map readField⟩

/-- All values of a name, in order. -/
def getAll (f : Form) (name : String) : List String :=
  f.fields.filterMap fun p => if p.1 = name then some p.2 else none

/-- The first value of a name. -/
def first? (f : Form) (name : String) : Option String :=
  (f.fields.find? (·.1 = name)).map (·.2)

@[simp] theorem parse_nil : parse [] = ⟨[]⟩ := rfl

end Form

end Gatehouse
