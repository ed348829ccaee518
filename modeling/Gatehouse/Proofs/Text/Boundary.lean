import Gatehouse.Text.Utf8

namespace Gatehouse.Utf8

/-!
# Byte offsets and prefixes

A byte offset of a text is a character boundary exactly where a prefix of the text ends. The
lemmas here trade offsets for prefixes, which is how the routing proofs read them.

* `size_le_of_prefix`, `prefix_of_size_le`, `eq_of_size_eq` — prefixes of one text are ordered by
  their size;
* `isBoundary_iff`, `takeBytes?_eq_some_iff`, `dropBytes?_eq_some_iff` — boundaries and slices as
  prefixes;
* `size_le_floorBoundary` — the step back stops at the longest prefix within the offset;
* `byteAt?_size_eq_slash_iff` — the byte behind a prefix is a slash exactly when the character
  there is one.
-/

variable {cs a b : List Char}

/-! ### Sizes of prefixes -/

/-- A prefix is no larger than the text. -/
theorem size_le_of_prefix (h : a <+: cs) : size a ≤ size cs := by
  obtain ⟨rest, rfl⟩ := h
  rw [size_append]
  exact Nat.le_add_right _ _

/-- Of two prefixes of one text, the one of smaller size is a prefix of the other. -/
theorem prefix_of_size_le (ha : a <+: cs) (hb : b <+: cs) (h : size a ≤ size b) : a <+: b := by
  rcases List.prefix_or_prefix_of_prefix ha hb with hab | hba
  · exact hab
  · obtain ⟨rest, rfl⟩ := hba
    -- Whatever `a` had beyond `b` would make it larger.
    have hrest : rest = [] := by
      by_cases hne : rest = []
      · exact hne
      · have hpos := size_pos_of_ne_nil hne
        rw [size_append] at h
        omega
    simp [hrest]

/-- Prefixes of one text that have the same size are equal. -/
theorem eq_of_size_eq (ha : a <+: cs) (hb : b <+: cs) (h : size a = size b) : a = b := by
  have hab : a <+: b := prefix_of_size_le ha hb (Nat.le_of_eq h)
  have hba : b <+: a := prefix_of_size_le hb ha (Nat.le_of_eq h.symm)
  exact hab.eq_of_length_le hba.length_le

/-! ### Boundaries and slices -/

/-- A slice from an offset is what a prefix of that size leaves. -/
theorem dropBytes?_eq_some_iff {n : Nat} {rest : List Char} :
    dropBytes? cs n = some rest ↔ ∃ a, cs = a ++ rest ∧ size a = n := by
  constructor
  · intro h
    induction cs generalizing n with
    | nil =>
      cases n with
      | zero => exact ⟨[], by simpa [dropBytes?] using h, rfl⟩
      | succ n => simp [dropBytes?] at h
    | cons c cs ih =>
      cases n with
      | zero => exact ⟨[], by simpa [dropBytes?] using h, rfl⟩
      | succ n =>
        simp only [dropBytes?] at h
        split at h
        · obtain ⟨a, ha, hn⟩ := ih h
          refine ⟨c :: a, by rw [ha, List.cons_append], ?_⟩
          rw [size_cons]; omega
        · simp at h
  · rintro ⟨a, rfl, rfl⟩
    exact dropBytes?_append a rest

/-- A slice up to an offset is the prefix of that size. -/
theorem takeBytes?_eq_some_iff {n : Nat} :
    takeBytes? cs n = some a ↔ a <+: cs ∧ size a = n := by
  constructor
  · intro h
    refine ⟨?_, size_takeBytes? h⟩
    induction cs generalizing n a with
    | nil =>
      cases n with
      | zero => simp [takeBytes?] at h; subst h; exact List.prefix_refl _
      | succ n => simp [takeBytes?] at h
    | cons c cs ih =>
      cases n with
      | zero => simp [takeBytes?] at h; subst h; exact List.nil_prefix
      | succ n =>
        simp only [takeBytes?] at h
        split at h
        · obtain ⟨u, hu, rfl⟩ := Option.map_eq_some_iff.1 h
          exact (List.prefix_cons_inj c).2 (ih hu)
        · simp at h
  · rintro ⟨⟨rest, rfl⟩, rfl⟩
    exact takeBytes?_append a rest

/-- An offset is a boundary exactly where a prefix ends. -/
theorem isBoundary_iff {n : Nat} : isBoundary cs n = true ↔ ∃ a, a <+: cs ∧ size a = n := by
  rw [isBoundary, Option.isSome_iff_exists]
  constructor
  · rintro ⟨rest, h⟩
    obtain ⟨a, rfl, ha⟩ := dropBytes?_eq_some_iff.1 h
    exact ⟨a, List.prefix_append a rest, ha⟩
  · rintro ⟨a, ⟨rest, rfl⟩, rfl⟩
    exact ⟨rest, dropBytes?_append a rest⟩

/-- The step back does not pass a boundary. -/
theorem size_le_floorBoundary {n : Nat} (ha : a <+: cs) (h : size a ≤ n) :
    size a ≤ floorBoundary cs n := by
  induction n with
  | zero => simpa [floorBoundary] using h
  | succ n ih =>
    simp only [floorBoundary]
    split
    · exact h
    · rename_i hb
      -- No prefix ends where the step back goes on, so `a` is within the next offset as well.
      have hne : size a ≠ n + 1 := fun hn => hb (isBoundary_iff.2 ⟨a, ha, hn⟩)
      exact ih (by omega)

/-! ### The byte behind a prefix -/

theorem encode_cons (c : Char) (cs : List Char) :
    encode (c :: cs) = String.utf8EncodeChar c ++ encode cs := rfl

/-- The encoding has the size of the text. -/
@[simp] theorem length_encode (cs : List Char) : (encode cs).length = size cs := by
  induction cs with
  | nil => rfl
  | cons c cs ih =>
    rw [encode_cons, List.length_append, ih, String.length_utf8EncodeChar, size_cons]

/-- Only the slash itself has an encoding that starts with the byte of a slash. -/
theorem head?_utf8EncodeChar_eq_slash_iff (c : Char) :
    (String.utf8EncodeChar c).head? = some 0x2F ↔ c = '/' := by
  constructor
  · intro h
    -- Beyond ASCII the first byte is at least `0xC0`; within ASCII it is the code point.
    have hc : c.val.toNat = 0x2F := by
      simp only [String.utf8EncodeChar] at h
      repeat' split at h
      all_goals
        simp only [List.head?_cons, Option.some.injEq, ← UInt8.toNat_inj, UInt8.toNat_ofNat',
          UInt8.reduceToNat] at h
        omega
    exact Char.ext (UInt32.toNat_inj.1 hc)
  · rintro rfl
    rfl

/-- The byte behind a prefix is a slash exactly when the next character is one. -/
theorem byteAt?_size_eq_slash_iff (a b : List Char) :
    byteAt? (a ++ b) (size a) = some 0x2F ↔ b.head? = some '/' := by
  have hget : byteAt? (a ++ b) (size a) = (encode b).head? := by
    rw [byteAt?, encode_append, ← length_encode a, List.getElem?_append_right (Nat.le_refl _),
      Nat.sub_self, List.head?_eq_getElem?]
  rw [hget]
  cases b with
  | nil => simp
  | cons c b =>
    have hhead : (encode (c :: b)).head? = (String.utf8EncodeChar c).head? := by
      rw [encode_cons]
      cases hc : String.utf8EncodeChar c with
      | nil => exact absurd hc String.utf8EncodeChar_ne_nil
      | cons x xs => rfl
    rw [hhead, head?_utf8EncodeChar_eq_slash_iff, List.head?_cons, Option.some.injEq]

end Gatehouse.Utf8
