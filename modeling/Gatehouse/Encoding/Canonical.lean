import Gatehouse.Encoding.Der

namespace Gatehouse.Der

/-!
# Elements in canonical form

Keys and the certificates of a TLS setup are read strictly: a length takes as few bytes as it can,
an element is short, and its tag is a single byte.

* `write` — an element with a tag byte and a content;
* `read?` — the content of an element that is written so, and the bytes behind it;
* `readWhole?` — the same, with nothing behind the element;
* `writeNatural` — natural numbers;
* `read?_write` — what was written is read back.
-/

/-! ### Tags -/

/-- The byte that an element begins with, by what the element is. -/
inductive Kind where
  | boolean
  | integer
  | bitString
  | octetString
  | objectIdentifier
  | sequence
  /-- A part with a number of its own, below 31, which holds other elements. -/
  | part (n : Nat)
  deriving DecidableEq, Repr

/-- The tag byte. -/
def Kind.byte : Kind → UInt8
  | .boolean => 1
  | .integer => 2
  | .bitString => 3
  | .octetString => 4
  | .objectIdentifier => 6
  | .sequence => 48
  | .part n => UInt8.ofNat (160 + n)

/-! ### Lengths -/

/-- Contents are shorter than this. -/
def contentLimit : Nat := 65535

/-- A length in as few bytes as it takes. -/
def writeLength (n : Nat) : Bytes :=
  if n < 128 then [UInt8.ofNat n]
  else if n < 256 then [129, UInt8.ofNat n]
  else [130, UInt8.ofNat (n / 256), UInt8.ofNat (n % 256)]

/-- Reads a length that takes no more bytes than it needs. -/
def readShortLength? : Bytes → Option (Nat × Bytes)
  | 129 :: n :: rest => if n.toNat < 128 then none else some (n.toNat, rest)
  | 130 :: n :: m :: rest => if n = 0 then none else some (n.toNat * 256 + m.toNat, rest)
  | n :: rest => if n.toNat < 128 then some (n.toNat, rest) else none
  | [] => none

theorem readShortLength?_writeLength {n : Nat} (h : n < contentLimit) (rest : Bytes) :
    readShortLength? (writeLength n ++ rest) = some (n, rest) := by
  have small {k : Nat} (hk : k < 256) : (UInt8.ofNat k).toNat = k := by
    simp [Nat.mod_eq_of_lt hk]
  have hlimit : n < 65535 := h
  unfold writeLength
  split
  · next h1 =>
    have h2 : UInt8.ofNat n ≠ 129 := fun e => by
      have := congrArg UInt8.toNat e
      rw [small (by omega)] at this
      simp at this
      omega
    have h3 : UInt8.ofNat n ≠ 130 := fun e => by
      have := congrArg UInt8.toNat e
      rw [small (by omega)] at this
      simp at this
      omega
    rw [List.singleton_append, readShortLength?]
    · rw [small (by omega), if_pos h1]
    · exact fun _ _ e _ => h2 e
    · exact fun _ _ _ e _ => h3 e
  · next h1 =>
    split
    · next h2 =>
      simp only [List.cons_append, List.nil_append, readShortLength?, small h2, if_neg h1]
    · next h2 =>
      have h3 : UInt8.ofNat (n / 256) ≠ 0 := fun e => by
        have := congrArg UInt8.toNat e
        rw [small (by omega)] at this
        simp at this
        omega
      simp only [List.cons_append, List.nil_append, readShortLength?, if_neg h3,
        small (show n / 256 < 256 by omega), small (show n % 256 < 256 by omega)]
      rw [Nat.div_add_mod' n 256]

/-! ### Elements -/

/-- An element. -/
def write (k : Kind) (content : Bytes) : Bytes :=
  k.byte :: (writeLength content.length ++ content)

/-- The content of an element of some kind, and the bytes behind the element. -/
def read? (k : Kind) (bs : Bytes) : Option (Bytes × Bytes) :=
  match bs with
  | [] => none
  | b :: rest =>
    if b ≠ k.byte then none
    else
      match readShortLength? rest with
      | none => none
      | some (n, rest) =>
        if contentLimit ≤ n ∨ rest.length < n then none else some (rest.take n, rest.drop n)

/-- The content of an element with nothing behind it. -/
def readWhole? (k : Kind) (bs : Bytes) : Option Bytes :=
  match read? k bs with
  | some (content, []) => some content
  | _ => none

theorem read?_write (k : Kind) {content : Bytes} (h : content.length < contentLimit)
    (rest : Bytes) : read? k (write k content ++ rest) = some (content, rest) := by
  simp only [write, List.cons_append, List.append_assoc, read?, ne_eq, not_true_eq_false,
    if_false, readShortLength?_writeLength h, List.length_append]
  rw [if_neg (by omega)]
  simp

/-! ### Natural numbers -/

/-- Whether the content of an integer is a natural number in as few bytes as it takes. -/
def isNatural : Bytes → Bool
  | [] => false
  | [b] => b.toNat < 128
  | b :: c :: _ => b.toNat < 128 && (b ≠ 0 || 128 ≤ c.toNat)

/-- The bytes of a number, the lowest first, at least one. -/
def naturalBytes (n : Nat) : Bytes :=
  if n < 256 then [UInt8.ofNat n] else UInt8.ofNat (n % 256) :: naturalBytes (n / 256)
termination_by n
decreasing_by omega

/-- A natural number as an integer, whose first bit is the sign. -/
def writeNatural (n : Nat) : Bytes :=
  let digits := (naturalBytes n).reverse
  write .integer (if 128 ≤ (digits.headD 0).toNat then 0 :: digits else digits)

end Gatehouse.Der
