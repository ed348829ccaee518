namespace Gatehouse

/-- A sequence of bytes: a body, a header value, a file. -/
abbrev Bytes := List UInt8

/-!
# UTF-8

Characters and their byte encoding, with byte offsets into character lists. An offset that falls
inside a character has no meaning, so the slicing functions are partial.

* `Utf8.encode`, `Utf8.size` — the encoding and its length;
* `Utf8.dropBytes?`, `Utf8.takeBytes?` — slices at a byte offset, `none` inside a character;
* `Utf8.floorBoundary` — the largest character boundary at or below an offset;
* `Utf8.byteAt?` — the byte at an offset;
* `Utf8.decode?` — strict decoding; `Utf8.decodeLossy` — replaces each maximal ill-formed part
  by U+FFFD.
-/

namespace Utf8

/-- UTF-8 encoding of a character list. -/
def encode (cs : List Char) : Bytes := cs.flatMap String.utf8EncodeChar

/-- Length of the encoding in bytes. -/
def size : List Char → Nat
  | [] => 0
  | c :: cs => c.utf8Size + size cs

/-- The encoding of a string. -/
def bytes (s : String) : Bytes := encode s.toList

@[simp] theorem encode_nil : encode [] = [] := rfl

@[simp] theorem encode_append (a b : List Char) : encode (a ++ b) = encode a ++ encode b := by
  simp [encode]

@[simp] theorem size_nil : size [] = 0 := rfl

@[simp] theorem size_cons (c : Char) (cs : List Char) : size (c :: cs) = c.utf8Size + size cs := rfl

@[simp] theorem size_append (a b : List Char) : size (a ++ b) = size a + size b := by
  induction a with
  | nil => simp
  | cons c cs ih => simp [ih, Nat.add_assoc]

theorem size_pos_of_ne_nil {cs : List Char} (h : cs ≠ []) : 0 < size cs := by
  cases cs with
  | nil => exact absurd rfl h
  | cons c cs => have := c.utf8Size_pos; simp; omega

/-- What is left after the first `n` bytes, if a character starts (or the text ends) there. -/
def dropBytes? : List Char → Nat → Option (List Char)
  | cs, 0 => some cs
  | [], _ + 1 => none
  | c :: cs, n + 1 => if c.utf8Size ≤ n + 1 then dropBytes? cs (n + 1 - c.utf8Size) else none

/-- The characters within the first `n` bytes, if a character starts (or the text ends) there. -/
def takeBytes? : List Char → Nat → Option (List Char)
  | _, 0 => some []
  | [], _ + 1 => none
  | c :: cs, n + 1 =>
    if c.utf8Size ≤ n + 1 then (takeBytes? cs (n + 1 - c.utf8Size)).map (c :: ·) else none

/-- Whether byte offset `n` is a character boundary of the text. -/
def isBoundary (cs : List Char) (n : Nat) : Bool := (dropBytes? cs n).isSome

/-- Steps back from `n` to the nearest character boundary; offset `0` always is one. -/
def floorBoundary (cs : List Char) : Nat → Nat
  | 0 => 0
  | n + 1 => if isBoundary cs (n + 1) then n + 1 else floorBoundary cs n

/-- The byte at offset `n` of the encoding. -/
def byteAt? (cs : List Char) (n : Nat) : Option UInt8 := (encode cs)[n]?

theorem floorBoundary_le (cs : List Char) (n : Nat) : floorBoundary cs n ≤ n := by
  induction n with
  | zero => simp [floorBoundary]
  | succ n ih => simp only [floorBoundary]; split <;> omega

/-- The step back never leaves the text without a boundary. -/
theorem isBoundary_floorBoundary (cs : List Char) (n : Nat) :
    isBoundary cs (floorBoundary cs n) = true := by
  induction n with
  | zero => simp [floorBoundary, isBoundary, dropBytes?]
  | succ n ih =>
    simp only [floorBoundary]
    split
    · assumption
    · exact ih

theorem size_takeBytes? {cs t : List Char} {n : Nat} (h : takeBytes? cs n = some t) :
    size t = n := by
  induction cs generalizing n t with
  | nil =>
    cases n with
    | zero => simp [takeBytes?] at h; subst h; rfl
    | succ n => simp [takeBytes?] at h
  | cons c cs ih =>
    cases n with
    | zero => simp [takeBytes?] at h; subst h; rfl
    | succ n =>
      simp only [takeBytes?] at h
      split at h
      · obtain ⟨u, hu, rfl⟩ := Option.map_eq_some_iff.1 h
        simp [ih hu]; omega
      · simp at h

/-- The first `n` characters' worth of a text are found again at the size of those characters. -/
theorem takeBytes?_append (a b : List Char) : takeBytes? (a ++ b) (size a) = some a := by
  induction a with
  | nil => cases b <;> rfl
  | cons c a ih =>
    have hc := c.utf8Size_pos
    obtain ⟨k, hk⟩ : ∃ k, size (c :: a) = k + 1 := ⟨size (c :: a) - 1, by simp; omega⟩
    rw [List.cons_append, hk, takeBytes?]
    have hk' : k + 1 = c.utf8Size + size a := by rw [← hk]; simp
    rw [if_pos (by omega), show k + 1 - c.utf8Size = size a by omega, ih]
    rfl

theorem dropBytes?_append (a b : List Char) : dropBytes? (a ++ b) (size a) = some b := by
  induction a with
  | nil => cases b <;> rfl
  | cons c a ih =>
    have hc := c.utf8Size_pos
    obtain ⟨k, hk⟩ : ∃ k, size (c :: a) = k + 1 := ⟨size (c :: a) - 1, by simp; omega⟩
    rw [List.cons_append, hk, dropBytes?]
    have hk' : k + 1 = c.utf8Size + size a := by rw [← hk]; simp
    rw [if_pos (by omega), show k + 1 - c.utf8Size = size a by omega, ih]

/-! ### Decoding -/

/-- The number of bytes a sequence starting with this lead byte has, with the range its second
    byte must lie in; `none` for bytes that start no sequence. -/
def leadInfo (b : UInt8) : Option (Nat × Nat × Nat) :=
  let n := b.toNat
  if n < 0x80 then some (1, 0, 0)
  else if n < 0xC2 then none
  else if n < 0xE0 then some (2, 0x80, 0xBF)
  else if n == 0xE0 then some (3, 0xA0, 0xBF)
  else if n == 0xED then some (3, 0x80, 0x9F)
  else if n < 0xF0 then some (3, 0x80, 0xBF)
  else if n == 0xF0 then some (4, 0x90, 0xBF)
  else if n < 0xF4 then some (4, 0x80, 0xBF)
  else if n == 0xF4 then some (4, 0x80, 0x8F)
  else none

/-- One decoding step: the character at the front or `none` for an ill-formed part, and how many
    bytes it covers. An ill-formed part is as long as the longest start of a well-formed
    sequence found there, and at least one byte. -/
def step (b : UInt8) (rest : Bytes) : Option Char × Nat :=
  let cont := fun (x : UInt8) => 0x80 ≤ x.toNat && x.toNat ≤ 0xBF
  let low := fun (x : UInt8) => x.toNat % 64
  match leadInfo b with
  | none => (none, 1)
  | some (1, _, _) => (some (Char.ofNat b.toNat), 1)
  | some (2, lo, hi) =>
    match rest with
    | x :: _ =>
      if lo ≤ x.toNat && x.toNat ≤ hi then (some (Char.ofNat (b.toNat % 32 * 64 + low x)), 2)
      else (none, 1)
    | [] => (none, 1)
  | some (3, lo, hi) =>
    match rest with
    | x :: y :: _ =>
      if lo ≤ x.toNat && x.toNat ≤ hi then
        if cont y then
          (some (Char.ofNat ((b.toNat % 16 * 64 + low x) * 64 + low y)), 3)
        else (none, 2)
      else (none, 1)
    | [x] => if lo ≤ x.toNat && x.toNat ≤ hi then (none, 2) else (none, 1)
    | [] => (none, 1)
  | some (_, lo, hi) =>
    match rest with
    | x :: y :: z :: _ =>
      if lo ≤ x.toNat && x.toNat ≤ hi then
        if cont y then
          if cont z then
            (some (Char.ofNat (((b.toNat % 8 * 64 + low x) * 64 + low y) * 64 + low z)), 4)
          else (none, 3)
        else (none, 2)
      else (none, 1)
    | [x, y] =>
      if lo ≤ x.toNat && x.toNat ≤ hi then if cont y then (none, 3) else (none, 2) else (none, 1)
    | [x] => if lo ≤ x.toNat && x.toNat ≤ hi then (none, 2) else (none, 1)
    | [] => (none, 1)

/-- The character substituted for an ill-formed part. -/
def replacement : Char := '\uFFFD'

/-- Decodes onto an accumulator kept in reverse, which bounds the stack on long inputs. -/
def decodeLossyAux (acc : List Char) : Bytes → List Char
  | [] => acc.reverse
  | b :: rest =>
    decodeLossyAux ((step b rest).1.getD replacement :: acc) (rest.drop ((step b rest).2 - 1))
termination_by bs => bs.length
decreasing_by simp only [List.length_drop, List.length_cons]; omega

/-- Decodes, replacing every ill-formed part by U+FFFD. -/
def decodeLossy (bs : Bytes) : List Char := decodeLossyAux [] bs

/-- Decodes onto an accumulator, stopping at the first ill-formed part. -/
def decodeAux? (acc : List Char) : Bytes → Option (List Char)
  | [] => some acc.reverse
  | b :: rest =>
    match step b rest with
    | (some c, n) => decodeAux? (c :: acc) (rest.drop (n - 1))
    | (none, _) => none
termination_by bs => bs.length
decreasing_by simp only [List.length_drop, List.length_cons]; omega

/-- Decodes well-formed UTF-8. -/
def decode? (bs : Bytes) : Option (List Char) := decodeAux? [] bs

end Utf8

end Gatehouse
