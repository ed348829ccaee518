import Gatehouse.Proofs.Text.Boundary
import Gatehouse.Text.Blank

namespace Gatehouse.Utf8

/-!
# ASCII within text

A character of ASCII is a byte, and every other character begins with a byte beyond ASCII.

* `utf8EncodeChar_of_lt`, `exists_head_utf8EncodeChar` — the bytes of a character within ASCII and
  beyond it;
* `ofAscii`, `encode_ofAscii`, `eq_ofAscii_of_encode` — the text of some bytes of ASCII, and no
  other text, is encoded as these bytes;
* `mem_encode_iff`, `encode_prefix_iff`, `eq_of_encode_eq` — characters of ASCII show in the bytes;
* `toNat_toLower`, `isAlpha_iff`, `lower_lower` — letters and their case, by number.
-/

variable {c : Char} {cs word : List Char}

/-- A character of ASCII is encoded as the byte of its number. -/
theorem utf8EncodeChar_of_lt (h : c.toNat < 0x80) :
    String.utf8EncodeChar c = [UInt8.ofNat c.toNat] := by
  have hle : c.val.toNat ≤ 127 := Nat.le_of_lt_succ h
  simp only [String.utf8EncodeChar, if_pos hle]
  rfl

/-- The byte of a character of ASCII has its number. -/
theorem toNat_ofNat_of_lt (h : c.toNat < 0x80) : (UInt8.ofNat c.toNat).toNat = c.toNat := by
  rw [UInt8.toNat_ofNat']
  omega

/-- Beyond ASCII no byte of an encoding is ASCII. -/
theorem le_toNat_of_mem_utf8EncodeChar (h : 0x80 ≤ c.toNat) :
    ∀ b ∈ String.utf8EncodeChar c, 0x80 ≤ b.toNat := by
  have hgt : ¬ c.val.toNat ≤ 127 := Nat.not_le.2 h
  simp only [String.utf8EncodeChar, if_neg hgt]
  repeat' split
  all_goals
    simp only [List.mem_cons, List.not_mem_nil, or_false, forall_eq_or_imp, forall_eq,
      UInt8.toNat_ofNat']
    omega

/-- Beyond ASCII every encoding starts with a byte that is not ASCII either. -/
theorem exists_head_utf8EncodeChar (h : 0x80 ≤ c.toNat) :
    ∃ b rest, String.utf8EncodeChar c = b :: rest ∧ 0x80 ≤ b.toNat := by
  obtain ⟨b, rest, hbytes⟩ := List.exists_cons_of_ne_nil (@String.utf8EncodeChar_ne_nil c)
  exact ⟨b, rest, hbytes, le_toNat_of_mem_utf8EncodeChar h b (hbytes ▸ List.mem_cons_self)⟩

/-- The text of some bytes of ASCII, a character for each byte. -/
def ofAscii (bs : Bytes) : List Char := bs.map fun b => Char.ofNat b.toNat

/-- The character of a byte has its number. -/
theorem toNat_ofNat_toNat (b : UInt8) : (Char.ofNat b.toNat).toNat = b.toNat := by
  have hvalid : b.toNat.isValidChar := .inl (Nat.lt_trans b.toNat_lt (by decide))
  rw [Char.ofNat, dif_pos hvalid]
  rfl

/-- The text of some bytes of ASCII is encoded as these bytes. -/
theorem encode_ofAscii {bs : Bytes} (h : ∀ b ∈ bs, b.toNat < 0x80) : encode (ofAscii bs) = bs := by
  induction bs with
  | nil => rfl
  | cons b bs ih =>
    obtain ⟨hfirst, hrest⟩ := List.forall_mem_cons.1 h
    have hchar : (Char.ofNat b.toNat).toNat < 0x80 := by rwa [toNat_ofNat_toNat]
    rw [ofAscii, List.map_cons, encode_cons, utf8EncodeChar_of_lt hchar, toNat_ofNat_toNat,
      UInt8.ofNat_toNat]
    exact congrArg (b :: ·) (ih hrest)

/-- Only the text of some bytes of ASCII is encoded as these bytes. -/
theorem eq_ofAscii_of_encode {bs : Bytes} (h : encode cs = bs)
    (hascii : ∀ b ∈ bs, b.toNat < 0x80) : cs = ofAscii bs := by
  induction cs generalizing bs with
  | nil =>
    obtain rfl : [] = bs := h
    rfl
  | cons c cs ih =>
    rw [encode_cons] at h
    by_cases hc : c.toNat < 0x80
    · rw [utf8EncodeChar_of_lt hc] at h
      subst h
      have hrest : cs = ofAscii (encode cs) :=
        ih rfl fun b hb => hascii b (List.mem_cons_of_mem _ hb)
      have hchar : Char.ofNat (UInt8.ofNat c.toNat).toNat = c := by
        rw [toNat_ofNat_of_lt hc, Char.ofNat_toNat]
      show c :: cs = Char.ofNat (UInt8.ofNat c.toNat).toNat :: ofAscii (encode cs)
      rw [hchar, ← hrest]
    · -- The first byte of any other character is not ASCII.
      obtain ⟨b, rest, hbytes, hb⟩ := exists_head_utf8EncodeChar (Nat.le_of_not_lt hc)
      rw [hbytes] at h
      have hlt : b.toNat < 0x80 := hascii b (by rw [← h]; simp)
      omega

/-! ### ASCII in an encoding -/

/-- A byte of ASCII stands in an encoding where its character stands in the text. -/
theorem mem_encode_iff (h : c.toNat < 0x80) : UInt8.ofNat c.toNat ∈ encode cs ↔ c ∈ cs := by
  rw [encode, List.mem_flatMap]
  constructor
  · rintro ⟨d, hd, hmem⟩
    by_cases hascii : d.toNat < 0x80
    · rw [utf8EncodeChar_of_lt hascii, List.mem_singleton, ← UInt8.toNat_inj, toNat_ofNat_of_lt h,
        toNat_ofNat_of_lt hascii, Char.toNat_inj] at hmem
      rwa [hmem]
    · have hle := le_toNat_of_mem_utf8EncodeChar (Nat.le_of_not_lt hascii) _ hmem
      rw [toNat_ofNat_of_lt h] at hle
      omega
  · intro hc
    exact ⟨c, hc, by rw [utf8EncodeChar_of_lt h]; exact List.mem_singleton_self _⟩

/-- A text of ASCII is the front of a text where its encoding is the front of the encoding. -/
theorem encode_prefix_iff (hword : ∀ c ∈ word, c.toNat < 0x80) :
    encode word <+: encode cs ↔ word <+: cs := by
  constructor
  · intro h
    induction word generalizing cs with
    | nil => exact List.nil_prefix
    | cons c word ih =>
      obtain ⟨hc, hword⟩ := List.forall_mem_cons.1 hword
      rw [encode_cons, utf8EncodeChar_of_lt hc, List.singleton_append] at h
      cases cs with
      | nil => exact absurd (List.prefix_nil.1 h) (List.cons_ne_nil _ _)
      | cons d cs =>
        rw [encode_cons] at h
        by_cases hd : d.toNat < 0x80
        · rw [utf8EncodeChar_of_lt hd, List.singleton_append, List.cons_prefix_cons,
            ← UInt8.toNat_inj, toNat_ofNat_of_lt hc, toNat_ofNat_of_lt hd, Char.toNat_inj] at h
          obtain ⟨rfl, hrest⟩ := h
          exact (List.prefix_cons_inj c).2 (ih hword hrest)
        · -- Another character begins with another byte.
          obtain ⟨b, rest, hbytes, hb⟩ := exists_head_utf8EncodeChar (Nat.le_of_not_lt hd)
          rw [hbytes, List.cons_append, List.cons_prefix_cons] at h
          rw [← h.1, toNat_ofNat_of_lt hc] at hb
          omega
  · rintro ⟨rest, rfl⟩
    rw [encode_append]
    exact List.prefix_append _ _

/-- A text of ASCII is told by its encoding. -/
theorem eq_of_encode_eq (hword : ∀ c ∈ word, c.toNat < 0x80) (h : encode word = encode cs) :
    word = cs := by
  have hfront : word <+: cs := (encode_prefix_iff hword).1 (h ▸ List.prefix_rfl)
  have hsize : size word = size cs := by rw [← length_encode, ← length_encode, h]
  exact eq_of_size_eq hfront List.prefix_rfl hsize

/-! ### Letter case -/

/-- In lower case the upper case letters of ASCII are moved, and no other character is. -/
theorem toNat_toLower (c : Char) :
    c.toLower.toNat = if 0x41 ≤ c.toNat ∧ c.toNat ≤ 0x5A then c.toNat + 0x20 else c.toNat := by
  delta Char.toLower
  split
  · next h =>
    have hupper : 0x41 ≤ c.toNat ∧ c.toNat ≤ 0x5A := h
    rw [if_pos hupper]
    show (c.val + 0x20).toNat = c.toNat + 0x20
    rw [UInt32.toNat_add]
    show (c.toNat + 0x20) % 2 ^ 32 = c.toNat + 0x20
    omega
  · next h => exact (if_neg h).symm

/-- Letters are those of ASCII. -/
theorem isAlpha_iff : c.isAlpha = true ↔
    0x41 ≤ c.toNat ∧ c.toNat ≤ 0x5A ∨ 0x61 ≤ c.toNat ∧ c.toNat ≤ 0x7A := by
  delta Char.isAlpha Char.isUpper Char.isLower
  simp only [Bool.or_eq_true, Bool.and_eq_true, decide_eq_true_eq]
  exact Iff.rfl

/-- A text in lower case stays as it is. -/
theorem lower_lower (cs : List Char) : Text.lower (Text.lower cs) = Text.lower cs := by
  rw [Text.lower, Text.lower, List.map_map]
  refine List.map_congr_left fun c _ => ?_
  rw [← Char.toNat_inj, Function.comp_apply, toNat_toLower, if_neg]
  rw [toNat_toLower]
  split <;> omega

end Gatehouse.Utf8
