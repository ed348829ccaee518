import Gatehouse.Proofs.Text.Ascii

namespace Gatehouse.Utf8

/-!
# Decoding text

The decoder that replaces what is ill-formed finds every text in the encoding of the text.

* `leadInfo_two`, `leadInfo_three`, `leadInfo_four` — what the first byte of a longer sequence says;
* `step_two`, `step_three`, `step_four` — well-formed sequences of these lengths;
* `step_utf8EncodeChar`, `decodeLossy_encode` — a character and a text.
-/

variable {b x y z : UInt8} {c : Char} {rest : Bytes}

/-! ### First bytes -/

theorem leadInfo_two (hlo : 0xC2 ≤ b.toNat) (hhi : b.toNat < 0xE0) :
    leadInfo b = some (2, 0x80, 0xBF) := by
  simp only [leadInfo]
  rw [if_neg (by omega), if_neg (by omega), if_pos hhi]

/-- After the first byte some second bytes would spell overlong forms or surrogates. -/
theorem leadInfo_three (hlo : 0xE0 ≤ b.toNat) (hhi : b.toNat < 0xF0) :
    leadInfo b = some (3, if b.toNat = 0xE0 then 0xA0 else 0x80,
      if b.toNat = 0xED then 0x9F else 0xBF) := by
  simp only [leadInfo, beq_iff_eq]
  rw [if_neg (by omega), if_neg (by omega), if_neg (by omega)]
  split
  · next h => simp [h]
  · split
    · simp
    · simp_all

/-- After the first byte some second bytes would spell overlong forms or numbers beyond the last
    character. -/
theorem leadInfo_four (hlo : 0xF0 ≤ b.toNat) (hhi : b.toNat ≤ 0xF4) :
    leadInfo b = some (4, if b.toNat = 0xF0 then 0x90 else 0x80,
      if b.toNat = 0xF4 then 0x8F else 0xBF) := by
  simp only [leadInfo, beq_iff_eq]
  rw [if_neg (by omega), if_neg (by omega), if_neg (by omega), if_neg (by omega),
    if_neg (by omega), if_neg (by omega)]
  split
  · next h => simp [h]
  · split
    · simp [*]
      omega
    · simp [*]
      omega

/-! ### Sequences -/

/-- A byte that continues a sequence. -/
def IsContinuation (b : UInt8) : Prop := 0x80 ≤ b.toNat ∧ b.toNat ≤ 0xBF

theorem step_two (hlo : 0xC2 ≤ b.toNat) (hhi : b.toNat < 0xE0) (hx : IsContinuation x) :
    step b (x :: rest) = (some (Char.ofNat (b.toNat % 32 * 64 + x.toNat % 64)), 2) := by
  rw [step, leadInfo_two hlo hhi]
  exact if_pos (by simpa [IsContinuation] using hx)

theorem step_three (hlo : 0xE0 ≤ b.toNat) (hhi : b.toNat < 0xF0)
    (hfrom : (if b.toNat = 0xE0 then 0xA0 else 0x80) ≤ x.toNat)
    (hto : x.toNat ≤ if b.toNat = 0xED then 0x9F else 0xBF) (hy : IsContinuation y) :
    step b (x :: y :: rest)
      = (some (Char.ofNat ((b.toNat % 16 * 64 + x.toNat % 64) * 64 + y.toNat % 64)), 3) := by
  rw [step, leadInfo_three hlo hhi]
  simp only [hfrom, hto, decide_true, Bool.and_self, if_true]
  exact if_pos (by simpa [IsContinuation] using hy)

theorem step_four (hlo : 0xF0 ≤ b.toNat) (hhi : b.toNat ≤ 0xF4)
    (hfrom : (if b.toNat = 0xF0 then 0x90 else 0x80) ≤ x.toNat)
    (hto : x.toNat ≤ if b.toNat = 0xF4 then 0x8F else 0xBF) (hy : IsContinuation y)
    (hz : IsContinuation z) :
    step b (x :: y :: z :: rest)
      = (some (Char.ofNat (((b.toNat % 8 * 64 + x.toNat % 64) * 64 + y.toNat % 64) * 64
          + z.toNat % 64)), 4) := by
  rw [step, leadInfo_four hlo hhi]
  simp only [hfrom, hto, decide_true, Bool.and_self, if_true]
  rw [if_pos (by simpa [IsContinuation] using hy), if_pos (by simpa [IsContinuation] using hz)]

/-! ### Characters and texts -/

theorem ofNat_eq_of_toNat {n : Nat} (h : n = c.toNat) : Char.ofNat n = c := by
  rw [h, Char.ofNat_toNat]

/-- The bytes of a character are decoded to it, whatever follows. -/
theorem step_utf8EncodeChar (c : Char) (rest : Bytes) :
    ∃ b tail, String.utf8EncodeChar c = b :: tail ∧
      step b (tail ++ rest) = (some c, tail.length + 1) := by
  have hvalid : c.toNat < 0xD800 ∨ 0xDFFF < c.toNat ∧ c.toNat < 0x110000 := c.valid
  have hv : c.val.toNat = c.toNat := rfl
  simp only [String.utf8EncodeChar, hv]
  generalize hn : c.toNat = n at hvalid
  have hbyte : ∀ k, k < 256 → (UInt8.ofNat k).toNat = k := fun k hk => by
    rw [UInt8.toNat_ofNat']
    omega
  have hlast := hbyte (n % 64 + 128) (by omega)
  have hnext := hbyte (n / 64 % 64 + 128) (by omega)
  have hthird := hbyte (n / 4096 % 64 + 128) (by omega)
  have hlast' : IsContinuation (UInt8.ofNat (n % 64 + 128)) := by
    rw [IsContinuation, hlast]
    omega
  have hnext' : IsContinuation (UInt8.ofNat (n / 64 % 64 + 128)) := by
    rw [IsContinuation, hnext]
    omega
  -- One case for each length of the encoding.
  split
  · have hb := hbyte n (by omega)
    refine ⟨_, _, rfl, ?_⟩
    rw [step, leadInfo, hb, if_pos (by omega), ← hn]
    simp
  split
  · have hb := hbyte (n / 64 % 32 + 192) (by omega)
    refine ⟨_, _, rfl, ?_⟩
    rw [List.singleton_append, step_two (by omega) (by omega) hlast', hb, hlast,
      ofNat_eq_of_toNat (c := c) (by omega)]
    rfl
  split
  · have hb := hbyte (n / 4096 % 16 + 224) (by omega)
    have hfrom : (if n / 4096 % 16 + 224 = 0xE0 then 0xA0 else 0x80) ≤ n / 64 % 64 + 128 := by
      split <;> omega
    have hto : n / 64 % 64 + 128 ≤ if n / 4096 % 16 + 224 = 0xED then 0x9F else 0xBF := by
      split <;> omega
    refine ⟨_, _, rfl, ?_⟩
    rw [List.cons_append, List.singleton_append,
      step_three (by omega) (by omega) (by rwa [hb, hnext]) (by rwa [hb, hnext]) hlast', hb, hnext,
      hlast, ofNat_eq_of_toNat (c := c) (by omega)]
    rfl
  · have hb := hbyte (n / 262144 % 8 + 240) (by omega)
    have hfrom : (if n / 262144 % 8 + 240 = 0xF0 then 0x90 else 0x80) ≤ n / 4096 % 64 + 128 := by
      split <;> omega
    have hto : n / 4096 % 64 + 128 ≤ if n / 262144 % 8 + 240 = 0xF4 then 0x8F else 0xBF := by
      split <;> omega
    refine ⟨_, _, rfl, ?_⟩
    rw [List.cons_append, List.cons_append, List.singleton_append,
      step_four (by omega) (by omega) (by rwa [hb, hthird]) (by rwa [hb, hthird]) hnext' hlast', hb,
      hthird, hnext, hlast, ofNat_eq_of_toNat (c := c) (by omega)]
    rfl

theorem decodeLossyAux_encode (acc cs : List Char) :
    decodeLossyAux acc (encode cs) = acc.reverse ++ cs := by
  induction cs generalizing acc with
  | nil => rw [encode_nil, decodeLossyAux, List.append_nil]
  | cons c cs ih =>
    obtain ⟨b, tail, hbytes, hstep⟩ := step_utf8EncodeChar c (encode cs)
    rw [encode_cons, hbytes, List.cons_append, decodeLossyAux, hstep]
    simp [ih]

/-- A text is decoded from its encoding. -/
theorem decodeLossy_encode (cs : List Char) : decodeLossy (encode cs) = cs :=
  decodeLossyAux_encode [] cs

end Gatehouse.Utf8
