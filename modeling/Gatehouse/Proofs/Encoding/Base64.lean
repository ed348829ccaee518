import Gatehouse.Encoding.Base64
import Gatehouse.Proofs.Text.Ascii
import Gatehouse.Proofs.Text.Splitting

namespace Gatehouse.Base64

/-!
# What is written in base64 is read

The symbols of some bytes are read as these bytes, whatever white space and padding a reader lets
stand beside them.

* `value?_symbol`, `isSome_value?_iff` — symbols and their bits, and which bytes are symbols;
* `decodeFrom_encode`, `decode_encode` — the symbols alone, group by group;
* `IsWritten`, `decodeText_of_isWritten` — texts with white space anywhere and padding at the end;
* `padded`, `decodePadded?_padded` — symbols padded to groups of four.
-/

variable {b : UInt8} {bs body : Bytes} {text : List Char}

/-! ### Symbols -/

/-- The six bits of a symbol are read back. -/
theorem value?_symbol : ∀ n < 64, value? (symbol n) = some n := by decide

/-- The bytes that are symbols: letters, digits, plus and slash. -/
theorem isSome_value?_iff : (value? b).isSome = true ↔
    (65 ≤ b.toNat ∧ b.toNat ≤ 90) ∨ (97 ≤ b.toNat ∧ b.toNat ≤ 122) ∨
      (48 ≤ b.toNat ∧ b.toNat ≤ 57) ∨ b.toNat = 43 ∨ b.toNat = 47 := by
  simp only [value?]
  split_ifs <;> simp <;> omega

theorem valueAt_symbol (offset : Nat) {n : Nat} (h : n < 64) :
    valueAt offset (symbol n) = .ok n := by
  rw [valueAt, value?_symbol n h]

/-- Only symbols are written. -/
theorem isSome_value?_of_mem_encode (bs : Bytes) : ∀ b ∈ encode bs, (value? b).isSome = true := by
  have hsymbol : ∀ n < 64, (value? (symbol n)).isSome = true := by
    intro n hn
    rw [value?_symbol n hn]
    rfl
  have hlt : ∀ b : UInt8, b.toNat < 256 := UInt8.toNat_lt
  fun_induction encode bs with
  | case1 => exact List.forall_mem_nil _
  | case2 x =>
    have hx := hlt x
    simp only [List.forall_mem_cons]
    exact ⟨hsymbol _ (by omega), hsymbol _ (by omega), List.forall_mem_nil _⟩
  | case3 x y =>
    have hx := hlt x
    have hy := hlt y
    simp only [List.forall_mem_cons]
    exact ⟨hsymbol _ (by omega), hsymbol _ (by omega), hsymbol _ (by omega), List.forall_mem_nil _⟩
  | case4 x y z rest ih =>
    have hx := hlt x
    have hy := hlt y
    have hz := hlt z
    simp only [List.forall_mem_cons]
    exact ⟨hsymbol _ (by omega), hsymbol _ (by omega), hsymbol _ (by omega), hsymbol _ (by omega),
      ih⟩

/-- What is written is ASCII. -/
theorem toNat_lt_of_mem_encode (bs : Bytes) : ∀ b ∈ encode bs, b.toNat < 0x80 := by
  intro b hb
  have hsymbol := isSome_value?_iff.1 (isSome_value?_of_mem_encode bs b hb)
  omega

theorem toNat_lt_of_mem_append_pad (bs : Bytes) (k : Nat) :
    ∀ b ∈ encode bs ++ List.replicate k pad, b.toNat < 0x80 := by
  rw [List.forall_mem_append]
  refine ⟨toNat_lt_of_mem_encode bs, fun b hb => ?_⟩
  rw [List.eq_of_mem_replicate hb]
  decide

/-- No padding is written. -/
theorem ne_pad_of_mem_encode (bs : Bytes) : ∀ b ∈ encode bs, b ≠ pad := by
  rintro b hb rfl
  exact absurd (isSome_value?_of_mem_encode bs pad hb) (by decide)

/-! ### Symbols alone -/

/-- The first byte of a group is in its first symbol and the high bits of the second. -/
theorem first_of_group (a : UInt8) (low : Nat) (h : low < 16) :
    UInt8.ofNat (a.toNat / 4 * 4 + (a.toNat % 4 * 16 + low) / 16) = a := by
  have hbits : a.toNat / 4 * 4 + (a.toNat % 4 * 16 + low) / 16 = a.toNat := by omega
  rw [hbits, UInt8.ofNat_toNat]

/-- The second byte is in the low bits of the second symbol and the high bits of the third. -/
theorem second_of_group (b : UInt8) (high low : Nat) (h : low < 4) :
    UInt8.ofNat ((high * 16 + b.toNat / 16) % 16 * 16 + (b.toNat % 16 * 4 + low) / 4) = b := by
  have hlt := b.toNat_lt
  have hbits : (high * 16 + b.toNat / 16) % 16 * 16 + (b.toNat % 16 * 4 + low) / 4 = b.toNat := by
    omega
  rw [hbits, UInt8.ofNat_toNat]

/-- The third byte is in the low bits of the third symbol and in the last one. -/
theorem third_of_group (c : UInt8) (high : Nat) :
    UInt8.ofNat ((high * 4 + c.toNat / 64) % 4 * 64 + c.toNat % 64) = c := by
  have hlt := c.toNat_lt
  have hbits : (high * 4 + c.toNat / 64) % 4 * 64 + c.toNat % 64 = c.toNat := by omega
  rw [hbits, UInt8.ofNat_toNat]

/-- Groups of symbols are read as the bytes that they stand for. -/
theorem decodeFrom_encode (bs : Bytes) (offset : Nat) : decodeFrom offset (encode bs) = .ok bs := by
  have hlt : ∀ b : UInt8, b.toNat < 256 := UInt8.toNat_lt
  fun_induction encode bs generalizing offset with
  | case1 => rfl
  | case2 x =>
    have hx := hlt x
    have hspare : ¬ x.toNat % 4 * 16 % 16 ≠ 0 := by omega
    have hfirst := first_of_group x 0 (by decide)
    rw [Nat.add_zero] at hfirst
    rw [decodeFrom, valueAt_symbol _ (by omega), valueAt_symbol _ (by omega)]
    simp only [bind, Except.bind, pure, Except.pure, if_neg hspare, hfirst]
  | case3 x y =>
    have hx := hlt x
    have hy := hlt y
    have hspare : ¬ y.toNat % 16 * 4 % 4 ≠ 0 := by omega
    have hfirst := first_of_group x (y.toNat / 16) (by omega)
    have hsecond := second_of_group y (x.toNat % 4) 0 (by decide)
    rw [Nat.add_zero] at hsecond
    rw [decodeFrom, valueAt_symbol _ (by omega), valueAt_symbol _ (by omega),
      valueAt_symbol _ (by omega)]
    simp only [bind, Except.bind, pure, Except.pure, if_neg hspare, hfirst, hsecond]
  | case4 x y z rest ih =>
    have hx := hlt x
    have hy := hlt y
    have hz := hlt z
    have hfirst := first_of_group x (y.toNat / 16) (by omega)
    have hsecond := second_of_group y (x.toNat % 4) (z.toNat / 64) (by omega)
    have hthird := third_of_group z (y.toNat % 16)
    rw [decodeFrom, valueAt_symbol _ (by omega), valueAt_symbol _ (by omega),
      valueAt_symbol _ (by omega), valueAt_symbol _ (by omega), ih]
    simp only [bind, Except.bind, pure, Except.pure, hfirst, hsecond, hthird]

/-- No symbol stands alone behind the last group. -/
theorem length_encode_mod_ne (bs : Bytes) : (encode bs).length % 4 ≠ 1 := by
  fun_induction encode bs with
  | case1 => decide
  | case2 x => simp
  | case3 x y => simp
  | case4 x y z rest ih =>
    simp only [List.length_cons]
    omega

/-- What is written is read. -/
theorem decode_encode (bs : Bytes) : decode (encode bs) = .ok bs := by
  rw [decode, loneFault?, if_neg (length_encode_mod_ne bs)]
  exact decodeFrom_encode bs 0

/-! ### White space and padding -/

/-- What is left of a list when some member is dropped from its end as often as it stands there. -/
theorem rdropWhile_eq_iff {α : Type} [DecidableEq α] {a : α} {xs ys : List α} (hys : a ∉ ys) :
    xs.rdropWhile (· == a) = ys ↔ ∃ k, xs = ys ++ List.replicate k a := by
  constructor
  · rintro rfl
    have hdropped : ∀ b ∈ xs.rtakeWhile (· == a), b = a := by
      intro b hb
      have hb : (b == a) = true := List.mem_rtakeWhile_imp (p := (· == a)) hb
      exact beq_iff_eq.1 hb
    refine ⟨(xs.rtakeWhile (· == a)).length, ?_⟩
    rw [← List.eq_replicate_of_mem hdropped]
    exact List.rdropWhile_append_rtakeWhile.symm
  · rintro ⟨k, rfl⟩
    have hdropped : ∀ b ∈ (List.replicate k a).reverse, (b == a) = true := by
      intro b hb
      rw [beq_iff_eq]
      exact List.eq_of_mem_replicate (List.mem_reverse.1 hb)
    have hlast : ∀ h : ys ≠ [], ¬ (ys.getLast h == a) = true := by
      intro h ha
      exact hys (beq_iff_eq.1 ha ▸ List.getLast_mem h)
    rw [List.rdropWhile, List.reverse_append, List.dropWhile_append_of_pos hdropped]
    exact List.rdropWhile_eq_self_iff.2 hlast

/-- Padding behind symbols is dropped. -/
theorem dropPadding_append (h : ∀ b ∈ body, b ≠ pad) (k : Nat) :
    ((body ++ List.replicate k pad).reverse.dropWhile (· == pad)).reverse = body := by
  have hnot : pad ∉ body := fun hpad => h pad hpad rfl
  exact (rdropWhile_eq_iff hnot).2 ⟨k, rfl⟩

/-- White space aside, the text is the symbols of the bytes with padding at the end, if any. -/
def IsWritten (bs : Bytes) (text : List Char) : Prop :=
  ∃ k, text.filter (fun c => !Text.isAsciiBlank c)
    = Utf8.ofAscii (encode bs ++ List.replicate k pad)

/-- The symbols of such a text are those of the bytes. -/
theorem compact_of_isWritten (h : IsWritten bs text) : compact text = encode bs := by
  obtain ⟨k, hkept⟩ := h
  rw [compact, hkept, Utf8.encode_ofAscii (toNat_lt_of_mem_append_pad bs k)]
  exact dropPadding_append (ne_pad_of_mem_encode bs) k

/-- Neither a symbol nor padding is blank or a dash. -/
theorem visible_of_mem_ofAscii {c : Char} {k : Nat}
    (h : c ∈ Utf8.ofAscii (encode bs ++ List.replicate k pad)) :
    Text.isBlank c = false ∧ c ≠ '-' := by
  obtain ⟨b, hb, rfl⟩ := List.mem_map.1 h
  have hsymbol : (value? b).isSome = true ∨ b = pad :=
    (List.mem_append.1 hb).imp (isSome_value?_of_mem_encode bs b) List.eq_of_mem_replicate
  have hpad : b = pad ↔ b.toNat = 61 := UInt8.toNat_inj.symm
  have hdash : '-'.toNat = 45 := rfl
  rw [isSome_value?_iff, hpad] at hsymbol
  rw [← Bool.not_eq_true, ← Char.toNat_inj.ne]
  simp only [Text.isBlank, Bool.or_eq_true, Bool.and_eq_true, decide_eq_true_eq, beq_iff_eq,
    Utf8.toNat_ofNat_toNat]
  omega

theorem IsWritten.visible {c : Char} (h : IsWritten bs text) (hc : c ∈ text)
    (hkept : Text.isAsciiBlank c = false) : Text.isBlank c = false ∧ c ≠ '-' := by
  obtain ⟨k, hk⟩ := h
  have hmem : c ∈ text.filter (fun c => !Text.isAsciiBlank c) :=
    List.mem_filter.2 ⟨hc, by rw [hkept]; rfl⟩
  exact visible_of_mem_ofAscii (hk ▸ hmem)

/-- Blanks at the ends do not count, as all blanks are white space. -/
theorem IsWritten.trim (h : IsWritten bs text) : IsWritten bs (Text.trim text) := by
  obtain ⟨before, after, hsplit, hbefore, hafter⟩ := Text.exists_blanks_around_trim text
  have hblank : ∀ part ⊆ text, (∀ c ∈ part, Text.isBlank c = true) →
      part.filter (fun c => !Text.isAsciiBlank c) = [] := by
    refine fun part hpart hblank => List.filter_eq_nil_iff.2 fun c hc hkept => ?_
    rw [Bool.not_eq_true'] at hkept
    have hvisible := (h.visible (hpart hc) hkept).1
    rw [hblank c hc] at hvisible
    cases hvisible
  have hbefore := hblank before (fun c hc => by rw [hsplit]; simp [hc]) hbefore
  have hafter := hblank after (fun c hc => by rw [hsplit]; simp [hc]) hafter
  obtain ⟨k, hk⟩ := h
  refine ⟨k, ?_⟩
  rw [hsplit, List.filter_append, List.filter_append, hbefore, hafter, List.nil_append,
    List.append_nil] at hk
  exact hk

theorem encode_ne_nil (h : bs ≠ []) : encode bs ≠ [] := by
  fun_cases encode bs with
  | case1 => exact absurd rfl h
  | case2 x => exact List.cons_ne_nil _ _
  | case3 x y => exact List.cons_ne_nil _ _
  | case4 x y z rest => exact List.cons_ne_nil _ _

theorem IsWritten.ne_nil (h : IsWritten bs text) (hne : bs ≠ []) : text ≠ [] := by
  rintro rfl
  obtain ⟨k, hk⟩ := h
  have hnil : encode bs ++ List.replicate k pad = [] := List.map_eq_nil_iff.1 hk.symm
  exact encode_ne_nil hne (List.append_eq_nil_iff.1 hnil).1

/-- A text with white space and padding is read. -/
theorem decodeText_of_isWritten (h : IsWritten bs text) : decodeText text = .ok bs := by
  rw [decodeText, compact_of_isWritten h, decode_encode]

/-! ### Padded groups -/

/-- The padding that completes the last group. -/
def padding (bs : Bytes) : Bytes := List.replicate ((3 - bs.length % 3) % 3) pad

/-- The symbols of some bytes in groups of four. -/
def padded (bs : Bytes) : Bytes := encode bs ++ padding bs

/-- A group is its symbols and padding. -/
theorem unpadded?_append (h : ∀ b ∈ body, b ≠ pad) (hlength : 2 ≤ body.length) (k : Nat) :
    unpadded? (body ++ List.replicate k pad) = some body := by
  rw [unpadded?, dropPadding_append h k]
  exact if_pos hlength

/-- The first group of four is read apart from the others. -/
theorem decodePadded?_append {group rest bytes : Bytes} (hgroup : group.length = 4)
    (hbody : unpadded? group = some body) (hbytes : decodeFrom 0 body = .ok bytes) :
    decodePadded? (group ++ rest) = (decodePadded? rest).map (bytes ++ ·) := by
  match group, hgroup with
  | [a, b, c, d], _ =>
    simp only [List.cons_append, List.nil_append, decodePadded?, hbody, hbytes, bind, Option.bind,
      Except.toOption, pure]
    cases decodePadded? rest <;> rfl

/-- One, two or three bytes are one group. -/
theorem decodePadded?_padded_append {chunk : Bytes} (hne : chunk ≠ []) (hshort : chunk.length ≤ 3)
    (rest : Bytes) :
    decodePadded? (padded chunk ++ rest) = (decodePadded? rest).map (chunk ++ ·) := by
  have hlengths : (padded chunk).length = 4 ∧ 2 ≤ (encode chunk).length := by
    match chunk, hne, hshort with
    | [a], _, _ => simp [padded, padding, encode]
    | [a, b], _, _ => simp [padded, padding, encode]
    | [a, b, c], _, _ => simp [padded, padding, encode]
  exact decodePadded?_append hlengths.1
    (unpadded?_append (ne_pad_of_mem_encode chunk) hlengths.2 _) (decodeFrom_encode chunk 0)

/-- Padded groups are read. -/
theorem decodePadded?_padded (bs : Bytes) : decodePadded? (padded bs) = some bs := by
  fun_induction encode bs with
  | case1 => rfl
  | case2 x =>
    rw [← List.append_nil (padded [x]), decodePadded?_padded_append (by simp) (by simp)]
    rfl
  | case3 x y =>
    rw [← List.append_nil (padded [x, y]), decodePadded?_padded_append (by simp) (by simp)]
    rfl
  | case4 x y z rest ih =>
    have hpadding : padding (x :: y :: z :: rest) = padding rest := by
      simp only [padding, List.length_cons]
      congr 1
      omega
    have hsplit : padded (x :: y :: z :: rest) = padded [x, y, z] ++ padded rest := by
      rw [padded, hpadding]
      simp [padded, padding, encode]
    rw [hsplit, decodePadded?_padded_append (by simp) (by simp), ih]
    rfl

end Gatehouse.Base64
