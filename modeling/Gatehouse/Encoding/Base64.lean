import Gatehouse.Text.Blank
import Gatehouse.Text.Utf8

namespace Gatehouse.Base64

/-!
# Base64

Three bytes are written as four symbols of six bits each; one or two bytes at the end as two or
three symbols, whose spare bits are zero.

* `encode` — the form without padding;
* `decode` — reads exactly that form, and says what is wrong with any other;
* `decodeText` — a text in which white space and padding at the end do not count;
* `decodePadded?` — symbols in groups of four, the short ones padded.
-/

/-! ### Symbols -/

/-- The symbol of six bits. -/
def symbol (n : Nat) : UInt8 :=
  if n < 26 then .ofNat (n + 65)
  else if n < 52 then .ofNat (n + 71)
  else if n < 62 then .ofNat (n - 4)
  else if n = 62 then 43
  else 47

/-- The six bits of a symbol. -/
def value? (b : UInt8) : Option Nat :=
  let n := b.toNat
  if 65 ≤ n ∧ n ≤ 90 then some (n - 65)
  else if 97 ≤ n ∧ n ≤ 122 then some (n - 71)
  else if 48 ≤ n ∧ n ≤ 57 then some (n + 4)
  else if n = 43 then some 62
  else if n = 47 then some 63
  else none

/-- The equals sign. -/
def pad : UInt8 := 61

/-! ### Writing -/

/-- The symbols for some bytes. -/
def encode : Bytes → Bytes
  | [] => []
  | [a] => [symbol (a.toNat / 4), symbol (a.toNat % 4 * 16)]
  | [a, b] =>
    [symbol (a.toNat / 4), symbol (a.toNat % 4 * 16 + b.toNat / 16), symbol (b.toNat % 16 * 4)]
  | a :: b :: c :: rest =>
    symbol (a.toNat / 4) :: symbol (a.toNat % 4 * 16 + b.toNat / 16) ::
      symbol (b.toNat % 16 * 4 + c.toNat / 64) :: symbol (c.toNat % 64) :: encode rest

/-! ### Reading -/

/-- What is wrong with some symbols. -/
inductive Fault where
  | symbol (value : UInt8) (offset : Nat)
  | lastSymbol (value : UInt8) (offset : Nat)
  | length (n : Nat)
  deriving DecidableEq, Repr

/-- The wording of a fault. -/
def Fault.message : Fault → String
  | .symbol value offset =>
    "Invalid symbol " ++ toString value.toNat ++ ", offset " ++ toString offset ++ "."
  | .lastSymbol value offset =>
    "Invalid last symbol " ++ toString value.toNat ++ ", offset " ++ toString offset ++ "."
  | .length n => "Invalid input length: " ++ toString n

/-- The six bits of the symbol at an offset. -/
def valueAt (offset : Nat) (b : UInt8) : Except Fault Nat :=
  match value? b with
  | some n => .ok n
  | none => .error (.symbol b offset)

/-- Reads the symbols from an offset on. -/
def decodeFrom (offset : Nat) : Bytes → Except Fault Bytes
  | [] => .ok []
  | [a] => do
    let _ ← valueAt offset a
    throw (.length (offset + 1))
  | [a, b] => do
    let x ← valueAt offset a
    let y ← valueAt (offset + 1) b
    if y % 16 ≠ 0 then throw (.lastSymbol b (offset + 1))
    return [.ofNat (x * 4 + y / 16)]
  | [a, b, c] => do
    let x ← valueAt offset a
    let y ← valueAt (offset + 1) b
    let z ← valueAt (offset + 2) c
    if z % 4 ≠ 0 then throw (.lastSymbol c (offset + 2))
    return [.ofNat (x * 4 + y / 16), .ofNat (y % 16 * 16 + z / 4)]
  | a :: b :: c :: d :: rest => do
    let x ← valueAt offset a
    let y ← valueAt (offset + 1) b
    let z ← valueAt (offset + 2) c
    let w ← valueAt (offset + 3) d
    let tail ← decodeFrom (offset + 4) rest
    return .ofNat (x * 4 + y / 16) :: .ofNat (y % 16 * 16 + z / 4) ::
      .ofNat (z % 4 * 64 + w) :: tail

/-- The fault of a symbol that stands alone behind the last group: one outside the alphabet is
    reported before all others. -/
def loneFault? (bs : Bytes) : Option Fault :=
  if bs.length % 4 = 1 then
    (bs.getLast?.filter fun b => (value? b).isNone && b != pad).map (.symbol · (bs.length - 1))
  else none

/-- Reads symbols without padding. -/
def decode (bs : Bytes) : Except Fault Bytes :=
  match loneFault? bs with
  | some f => .error f
  | none => decodeFrom 0 bs

/-- The symbols of a text: all but white space, and but padding at the end. -/
def compact (text : List Char) : Bytes :=
  let kept := Utf8.encode (text.filter fun c => !Text.isAsciiBlank c)
  (kept.reverse.dropWhile (· == pad)).reverse

/-- Reads the symbols of a text. -/
def decodeText (text : List Char) : Except Fault Bytes := decode (compact text)

/-- The symbols of a group of four without padding; there are at least two. -/
def unpadded? (group : Bytes) : Option Bytes :=
  let body := (group.reverse.dropWhile (· == pad)).reverse
  if 2 ≤ body.length then some body else none

/-- Reads groups of four symbols, each of which may be padded. -/
def decodePadded? : Bytes → Option Bytes
  | [] => some []
  | a :: b :: c :: d :: rest => do
    let body ← unpadded? [a, b, c, d]
    let bytes ← (decodeFrom 0 body).toOption
    return bytes ++ (← decodePadded? rest)
  | _ => none

end Gatehouse.Base64
