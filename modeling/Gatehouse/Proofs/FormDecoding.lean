import Gatehouse.Form
import Gatehouse.Proofs.Text.Decoding
import Gatehouse.Proofs.Text.Splitting
import Mathlib.Data.List.Forall2
import Mathlib.Data.List.TakeWhile

namespace Gatehouse.Form

/-!
# What decoding gives

The fields of a body are told from how the body is written: pieces with `&` between them, each with
a name and a value at both sides of its first `=`, and bytes that are written as themselves or by an
escape.

* `Spells`, `spells_iff` — the bytes that a written piece stands for;
* `Writes`, `readField_eq_iff` — the field that a piece stands for;
* `WrittenAs`, `parse_eq_iff` — a form is read from the bodies that it is written as, and from no
  other;
* `write`, `parse_write` — a way to write forms, with which every form is read back.
-/

/-! ### Escapes -/

/-- Two hexadecimal digits stand in front. -/
def StartsHex (written : Bytes) : Prop :=
  ∃ h l rest x y, written = h :: l :: rest ∧ hexValue? h = some x ∧ hexValue? l = some y

/-- A written piece stands for these bytes. -/
inductive Spells : Bytes → Bytes → Prop where
  | nil : Spells [] []
  /-- A plus sign stands for a space. -/
  | space {written meant : Bytes} (rest : Spells written meant) :
      Spells (0x2B :: written) (0x20 :: meant)
  /-- A percent sign and two digits stand for the byte of this number. -/
  | escape {h l x y : UInt8} {written meant : Bytes} (high : hexValue? h = some x)
      (low : hexValue? l = some y) (rest : Spells written meant) :
      Spells (0x25 :: h :: l :: written) ((x * 16 + y) :: meant)
  /-- Any other percent sign stands for itself. -/
  | percent {written meant : Bytes} (stray : ¬ StartsHex written) (rest : Spells written meant) :
      Spells (0x25 :: written) (0x25 :: meant)
  /-- So does any other byte. -/
  | plain {b : UInt8} {written meant : Bytes} (plus : b ≠ 0x2B) (percent : b ≠ 0x25)
      (rest : Spells written meant) : Spells (b :: written) (b :: meant)

variable {written meant : Bytes}

theorem unescapeAux_space (acc written : Bytes) :
    unescapeAux acc (0x2B :: written) = unescapeAux (0x20 :: acc) written := by
  rw [unescapeAux.eq_def]
  exact if_pos rfl

theorem unescapeAux_plain {b : UInt8} (plus : b ≠ 0x2B) (percent : b ≠ 0x25)
    (acc written : Bytes) :
    unescapeAux acc (b :: written) = unescapeAux (b :: acc) written := by
  rw [unescapeAux.eq_def]
  simp only [if_neg plus, if_neg percent]

theorem unescapeAux_escape {h l x y : UInt8} (high : hexValue? h = some x)
    (low : hexValue? l = some y) (acc written : Bytes) :
    unescapeAux acc (0x25 :: h :: l :: written)
      = unescapeAux ((x * 16 + y) :: acc) written := by
  rw [unescapeAux.eq_def]
  simp [high, low]

theorem unescapeAux_percent (stray : ¬ StartsHex written) (acc : Bytes) :
    unescapeAux acc (0x25 :: written) = unescapeAux (0x25 :: acc) written := by
  rw [unescapeAux.eq_def]
  match written with
  | [] => rfl
  | [_] => rfl
  | h :: l :: rest =>
    cases high : hexValue? h with
    | none => simp [high]
    | some x =>
      cases low : hexValue? l with
      | none => simp [high, low]
      | some y => exact absurd ⟨h, l, rest, x, y, rfl, high, low⟩ stray

/-- Undoing the escapes of a piece gives the bytes that it stands for. -/
theorem Spells.unescapeAux (h : Spells written meant) (acc : Bytes) :
    unescapeAux acc written = acc.reverse ++ meant := by
  induction h generalizing acc with
  | nil => rw [Form.unescapeAux, List.append_nil]
  | space rest ih => rw [unescapeAux_space, ih]; simp
  | escape high low rest ih => rw [unescapeAux_escape high low, ih]; simp
  | percent stray rest ih => rw [unescapeAux_percent stray, ih]; simp
  | plain plus percent rest ih => rw [unescapeAux_plain plus percent, ih]; simp

/-- Every piece stands for some bytes. -/
theorem exists_spells (written : Bytes) : ∃ meant, Spells written meant := by
  -- An escape takes three bytes at once, so the induction is on the length.
  induction hn : written.length using Nat.strongRecOn generalizing written with
  | _ n ih =>
  subst hn
  match written with
  | [] => exact ⟨[], .nil⟩
  | b :: rest =>
    by_cases hhex : b = 0x25 ∧ StartsHex rest
    · obtain ⟨rfl, h, l, written, x, y, rfl, high, low⟩ := hhex
      obtain ⟨meant, hrest⟩ := ih written.length (by simp; omega) written rfl
      exact ⟨_, .escape high low hrest⟩
    · obtain ⟨meant, hrest⟩ := ih rest.length (by simp) rest rfl
      by_cases hplus : b = 0x2B
      · subst hplus
        exact ⟨_, .space hrest⟩
      by_cases hpercent : b = 0x25
      · subst hpercent
        exact ⟨_, .percent (fun hstart => hhex ⟨rfl, hstart⟩) hrest⟩
      · exact ⟨_, .plain hplus hpercent hrest⟩

/-- A piece stands for what is left when its escapes are undone. -/
theorem spells_iff : Spells written meant ↔ unescapeAux [] written = meant := by
  refine ⟨fun h => h.unescapeAux [], ?_⟩
  rintro rfl
  obtain ⟨meant, h⟩ := exists_spells written
  rwa [h.unescapeAux []]

/-! ### Fields -/

/-- The text of some bytes; what is ill-formed in them is replaced. -/
def textOf (bs : Bytes) : String := String.ofList (Utf8.decodeLossy bs)

@[simp] theorem textOf_nil : textOf [] = "" := by
  simp [textOf, Utf8.decodeLossy, Utf8.decodeLossyAux]

/-- A piece stands for this field. -/
inductive Writes : Bytes → String × String → Prop where
  /-- The name ends at the first `=`. -/
  | pair {name value n v : Bytes} (free : 0x3D ∉ name) (hn : Spells name n) (hv : Spells value v) :
      Writes (name ++ 0x3D :: value) (textOf n, textOf v)
  /-- Without `=` there is a name only. -/
  | bare {name n : Bytes} (free : 0x3D ∉ name) (hn : Spells name n) : Writes name (textOf n, "")

theorem unescape_of_spells (h : Spells written meant) : unescape written = textOf meant := by
  rw [unescape, h.unescapeAux]
  rfl

/-- The bytes in front of the first `=`, and those from there on. -/
theorem span_name {name : Bytes} (free : 0x3D ∉ name) (rest : Bytes) :
    (name ++ rest).takeWhile (· != 0x3D) = name ++ rest.takeWhile (· != 0x3D) ∧
      (name ++ rest).dropWhile (· != 0x3D) = rest.dropWhile (· != 0x3D) := by
  have hall : ∀ b ∈ name, (b != 0x3D) = true := by
    intro b hb
    rw [bne_iff_ne]
    rintro rfl
    exact free hb
  exact ⟨List.takeWhile_append_of_pos hall, List.dropWhile_append_of_pos hall⟩

/-- A piece is read as the field that it stands for. -/
theorem readField_eq_iff {piece : Bytes} {field : String × String} :
    readField piece = field ↔ Writes piece field := by
  constructor
  · rintro rfl
    have hfree : (0x3D : UInt8) ∉ piece.takeWhile (· != 0x3D) := fun hmem => by
      have hkept := List.mem_takeWhile_imp hmem
      simp at hkept
    obtain ⟨n, hn⟩ := exists_spells (piece.takeWhile (· != 0x3D))
    obtain ⟨v, hv⟩ := exists_spells ((piece.dropWhile (· != 0x3D)).drop 1)
    have hsplit := List.takeWhile_append_dropWhile (p := (· != (0x3D : UInt8))) (l := piece)
    rw [readField, unescape_of_spells hn, unescape_of_spells hv]
    cases hrest : piece.dropWhile (· != 0x3D) with
    | nil =>
      rw [hrest, List.append_nil] at hsplit
      rw [hrest] at hv
      cases hv
      rw [hsplit] at hfree hn
      rw [textOf_nil]
      exact .bare hfree hn
    | cons b rest =>
      have hb : b = 0x3D := by
        have hstop := List.head?_dropWhile_not (· != (0x3D : UInt8)) piece
        rw [hrest] at hstop
        simpa using hstop
      subst hb
      rw [hrest] at hsplit hv
      have hpair : Writes (piece.takeWhile (· != 0x3D) ++ 0x3D :: rest) (textOf n, textOf v) :=
        .pair hfree hn hv
      rwa [hsplit] at hpair
  · intro h
    cases h with
    | @pair name value _ _ free hn hv =>
      obtain ⟨hfront, hback⟩ := span_name free (0x3D :: value)
      rw [readField, hfront, hback]
      simp [unescape_of_spells hn, unescape_of_spells hv]
    | bare free hn =>
      obtain ⟨hfront, hback⟩ := span_name free []
      rw [List.append_nil] at hfront hback
      rw [readField, hfront, hback]
      simp [unescape_of_spells hn, unescape_of_spells .nil]

/-! ### Forms -/

/-- A body is written for this form: pieces with `&` between them, of which those that hold
    something stand for the fields, in order. -/
def WrittenAs (f : Form) (body : Bytes) : Prop :=
  ∃ pieces : List Bytes, pieces ≠ [] ∧ (∀ p ∈ pieces, 0x26 ∉ p) ∧
    [0x26].intercalate pieces = body ∧
    List.Forall₂ Writes (pieces.filter (!·.isEmpty)) f.fields

theorem splitAux_eq (sep : UInt8) (piece : Bytes) (done : List Bytes) (bs : Bytes) :
    splitAux sep piece done bs
      = done.reverse ++ (bs.splitOn sep).modifyHead (piece.reverse ++ ·) := by
  induction bs generalizing piece done with
  | nil => simp [splitAux]
  | cons b bs ih =>
    rw [splitAux, List.splitOn_cons_eq_if_modifyHead]
    obtain ⟨p, ps, hps⟩ := List.exists_cons_of_ne_nil (List.splitOn_ne_nil sep bs)
    by_cases hb : b = sep
    · simp [hb, ih, hps]
    · simp [hb, ih, hps]

theorem splitBytes_eq_splitOn (sep : UInt8) (bs : Bytes) : splitBytes sep bs = bs.splitOn sep := by
  obtain ⟨p, ps, hps⟩ := List.exists_cons_of_ne_nil (List.splitOn_ne_nil sep bs)
  rw [splitBytes, splitAux_eq, hps]
  rfl

/-- A body is read as the form that it is written for, and every body is written for one. -/
theorem parse_eq_iff {body : Bytes} {f : Form} : parse body = f ↔ f.WrittenAs body := by
  have hfields : ∀ pieces : List Bytes,
      List.Forall₂ Writes pieces f.fields ↔ pieces.map readField = f.fields := fun pieces => by
    rw [← List.forall₂_eq_eq_eq, List.forall₂_map_left_iff]
    simp only [readField_eq_iff]
  rw [parse, splitBytes_eq_splitOn]
  constructor
  · rintro rfl
    exact ⟨body.splitOn 0x26, List.splitOn_ne_nil _ _, fun p hp => Text.notMem_of_mem_splitOn hp,
      List.intercalate_splitOn _, (hfields _).2 rfl⟩
  · rintro ⟨pieces, hne, hfree, rfl, hwrites⟩
    rw [List.splitOn_intercalate _ hfree hne, (hfields _).1 hwrites]

/-! ### A way to write forms -/

/-- Bytes that are written as themselves: digits, letters and four signs. -/
def isUnreserved (b : UInt8) : Bool :=
  (0x30 ≤ b && b ≤ 0x39) || (0x41 ≤ b && b ≤ 0x5A) || (0x61 ≤ b && b ≤ 0x7A) ||
    [0x2A, 0x2D, 0x2E, 0x5F].contains b

/-- The hexadecimal digit of a number below sixteen. -/
def hexDigit (n : Nat) : UInt8 := UInt8.ofNat (if n < 10 then 0x30 + n else 0x37 + n)

/-- Writes a byte. -/
def writeByte (b : UInt8) : Bytes :=
  if isUnreserved b then [b]
  else if b = 0x20 then [0x2B]
  else [0x25, hexDigit (b.toNat / 16), hexDigit (b.toNat % 16)]

/-- Writes a text. -/
def writeText (s : String) : Bytes := (Utf8.bytes s).flatMap writeByte

/-- Writes a field. -/
def writeField (p : String × String) : Bytes := writeText p.1 ++ 0x3D :: writeText p.2

/-- Writes a form. -/
def write (f : Form) : Bytes := [0x26].intercalate (f.fields.map writeField)

theorem hexDigit_spec : ∀ n < 16, hexValue? (hexDigit n) = some (UInt8.ofNat n) ∧
    isUnreserved (hexDigit n) = true := by
  decide

/-- A byte that is written stands for itself, whatever follows. -/
theorem spells_writeByte (b : UInt8) (rest : Spells written meant) :
    Spells (writeByte b ++ written) (b :: meant) := by
  rw [writeByte]
  split
  · next hplain =>
    refine .plain ?_ ?_ rest
    · rintro rfl
      exact absurd hplain (by decide)
    · rintro rfl
      exact absurd hplain (by decide)
  split
  · next hspace =>
    subst hspace
    exact .space rest
  · have hlt := b.toNat_lt
    have hhigh := (hexDigit_spec (b.toNat / 16) (by omega)).1
    have hlow := (hexDigit_spec (b.toNat % 16) (by omega)).1
    have hb : UInt8.ofNat (b.toNat / 16) * 16 + UInt8.ofNat (b.toNat % 16) = b := by
      rw [← UInt8.toNat_inj]
      simp only [UInt8.toNat_add, UInt8.toNat_mul, UInt8.toNat_ofNat', UInt8.reduceToNat]
      omega
    have hescape := Spells.escape hhigh hlow rest
    rwa [hb] at hescape

theorem spells_writeText (s : String) : Spells (writeText s) (Utf8.bytes s) := by
  rw [writeText]
  induction Utf8.bytes s with
  | nil => exact .nil
  | cons b bs ih => exact spells_writeByte b ih

/-- A byte with a meaning of its own is not in what is written. -/
theorem notMem_writeText {sep : UInt8} (hsep : isUnreserved sep = false) (hplus : sep ≠ 0x2B)
    (hpercent : sep ≠ 0x25) (s : String) : sep ∉ writeText s := by
  intro hmem
  obtain ⟨b, -, hb⟩ := List.mem_flatMap.1 hmem
  have hlt := b.toNat_lt
  rw [writeByte] at hb
  split at hb
  · next hplain =>
    rw [← List.mem_singleton.1 hb, hsep] at hplain
    cases hplain
  split at hb
  · exact hplus (List.mem_singleton.1 hb)
  · have hhigh := (hexDigit_spec (b.toNat / 16) (by omega)).2
    have hlow := (hexDigit_spec (b.toNat % 16) (by omega)).2
    simp only [List.mem_cons, List.not_mem_nil, or_false] at hb
    rcases hb with rfl | rfl | rfl
    · exact hpercent rfl
    · rw [hhigh] at hsep
      cases hsep
    · rw [hlow] at hsep
      cases hsep

theorem textOf_bytes (s : String) : textOf (Utf8.bytes s) = s := by
  rw [textOf, Utf8.bytes, Utf8.decodeLossy_encode, String.ofList_toList]

theorem writes_writeField (p : String × String) : Writes (writeField p) p := by
  have hfree : 0x3D ∉ writeText p.1 := notMem_writeText rfl (by decide) (by decide) p.1
  have hpair := Writes.pair hfree (spells_writeText p.1) (spells_writeText p.2)
  rwa [textOf_bytes, textOf_bytes] at hpair

theorem notMem_writeField (p : String × String) : 0x26 ∉ writeField p := by
  have hfree : ∀ s, 0x26 ∉ writeText s := notMem_writeText rfl (by decide) (by decide)
  simp [writeField, hfree]

/-- A form that is written is read back. -/
theorem parse_write (f : Form) : parse f.write = f := by
  rw [parse_eq_iff]
  obtain ⟨fields⟩ := f
  cases fields with
  | nil => exact ⟨[[]], by simp, by simp, rfl, .nil⟩
  | cons p ps =>
    have hkept : ((p :: ps).map writeField).filter (!·.isEmpty) = (p :: ps).map writeField := by
      refine List.filter_eq_self.2 fun piece hpiece => ?_
      obtain ⟨q, -, rfl⟩ := List.mem_map.1 hpiece
      simp [writeField]
    refine ⟨(p :: ps).map writeField, by simp, ?_, rfl, ?_⟩
    · intro piece hpiece
      obtain ⟨q, -, rfl⟩ := List.mem_map.1 hpiece
      exact notMem_writeField q
    · rw [hkept, List.forall₂_map_left_iff]
      exact List.forall₂_same.2 fun q _ => writes_writeField q

end Gatehouse.Form
