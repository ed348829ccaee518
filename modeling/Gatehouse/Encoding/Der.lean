import Gatehouse.Text.Utf8

namespace Gatehouse.Der

/-!
# Elements of the distinguished encoding

A value is written as its tag, its length and its content. Only lengths given in front are read,
also in longer form than needed; of a tag only the number tells values apart.

* `Element`, `readElement` — one value and the bytes behind it;
* `readAs` — a value with a given tag number;
* `readBits` — the content of a bit string, with the checks on its unused bits.
-/

/-- What is wrong with an element. -/
inductive Fault where
  | incomplete (missing : Nat)
  | tag
  | length
  | indefinite
  | unexpectedTag (expected actual : Nat)
  | constructed
  | unusedBits
  deriving DecidableEq, Repr

/-- The name of a fault. -/
def Fault.debug : Fault → String
  | .incomplete _ => "InvalidLength"
  | .tag => "InvalidTag"
  | .length => "InvalidLength"
  | .indefinite => "DerConstraintFailed(IndefiniteLength)"
  | .unexpectedTag expected actual =>
    "UnexpectedTag \x7b expected: Some(Tag(" ++ toString expected ++ ")), actual: Tag(" ++
      toString actual ++ ") \x7d"
  | .constructed => "DerConstraintFailed(Constructed)"
  | .unusedBits => "DerConstraintFailed(UnusedBitsNotZero)"

/-! ### Elements -/

/-- What stands in front of a content. -/
structure Header where
  family : Nat
  constructed : Bool
  number : Nat
  length : Nat
  deriving DecidableEq, Repr, Inhabited

/-- An element. -/
structure Element where
  header : Header
  content : Bytes
  deriving DecidableEq, Repr, Inhabited

/-- The number that bytes stand for, the first counting most. -/
def number (bs : Bytes) : Nat := bs.foldl (fun n b => n * 256 + b.toNat) 0

/-- The most bytes of a tag behind the first one. -/
def maxTagBytes : Nat := 5

/-- Reads a tag number of several bytes, the last of which has no continuation bit. -/
def readLongNumber : Nat → Nat → Bytes → Except Fault (Nat × Bytes)
  | 0, _, _ => .error .tag
  | _, _, [] => .error .tag
  | fuel + 1, n, b :: rest =>
    let n := n * 128 + b.toNat % 128
    if b.toNat < 128 then .ok (n, rest) else readLongNumber fuel n rest

/-- Reads a tag number. -/
def readNumber (first : UInt8) (rest : Bytes) : Except Fault (Nat × Bytes) :=
  if first.toNat % 32 = 31 then readLongNumber maxTagBytes 0 rest
  else .ok (first.toNat % 32, rest)

/-- Takes `n` bytes. -/
def take (n : Nat) (bs : Bytes) : Except Fault (Bytes × Bytes) :=
  if bs.length < n then .error (.incomplete (n - bs.length)) else .ok (bs.take n, bs.drop n)

/-- Reads a length. -/
def readLength (bs : Bytes) : Except Fault (Nat × Bytes) := do
  match bs with
  | [] => throw (.incomplete 1)
  | b :: rest =>
    let n := b.toNat
    if n < 128 then return (n, rest)
    if n = 128 then throw .indefinite
    if n = 255 then throw .length
    let (digits, rest) ← take (n - 128) rest
    if Nat.pow 2 64 ≤ number digits then throw .length
    return (number digits, rest)

/-- Reads a header. -/
def readHeader (bs : Bytes) : Except Fault (Header × Bytes) := do
  match bs with
  | [] => throw (.incomplete 1)
  | first :: rest =>
    let (n, rest) ← readNumber first rest
    let (length, rest) ← readLength rest
    return (⟨first.toNat / 64, first.toNat / 32 % 2 = 1, n, length⟩, rest)

/-- Reads an element. -/
def readElement (bs : Bytes) : Except Fault (Element × Bytes) := do
  let (header, rest) ← readHeader bs
  let (content, rest) ← take header.length rest
  return (⟨header, content⟩, rest)

/-! ### Elements of a type -/

def boolean : Nat := 1
def integer : Nat := 2
def bitString : Nat := 3
def octetString : Nat := 4
def objectIdentifier : Nat := 6
def sequence : Nat := 16
def set : Nat := 17
def utcTime : Nat := 23
def generalizedTime : Nat := 24

/-- Reads the content of an element with a tag number. -/
def readAs (expected : Nat) (bs : Bytes) : Except Fault (Bytes × Bytes) := do
  let (e, rest) ← readElement bs
  if e.header.number ≠ expected then throw (.unexpectedTag expected e.header.number)
  return (e.content, rest)

/-- How many of the last bits of a byte are zero. -/
def trailingZeros (b : UInt8) : Nat :=
  ((List.range 8).find? fun k => b.toNat / Nat.pow 2 k % 2 = 1).getD 8

/-- Checks the content of a bit string: the number of unused bits, which are zero, and the bits. -/
def checkBits (content : Bytes) : Except Fault Bytes :=
  match content with
  | [] => .error .length
  | [unused] => if unused = 0 then .ok [] else .error .unusedBits
  | unused :: bits =>
    if trailingZeros (bits.getLast?.getD 0) < unused.toNat then .error .unusedBits else .ok bits

/-- Reads a bit string in one piece. -/
def readBits (bs : Bytes) : Except Fault (Bytes × Bytes) := do
  let (e, rest) ← readElement bs
  if e.header.number ≠ bitString then throw (.unexpectedTag bitString e.header.number)
  if e.header.constructed then throw .constructed
  return (← checkBits e.content, rest)

end Gatehouse.Der
