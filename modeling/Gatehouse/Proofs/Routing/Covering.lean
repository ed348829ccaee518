import Gatehouse.Proofs.Text.Boundary
import Gatehouse.Routing.PathTable

namespace Gatehouse.Routing

/-!
# Covering prefixes

What it means for a prefix to cover a path, apart from any table or search.

* `Covers` — the prefix ends on a segment boundary of the path;
* `IsLongestCover` — a prefix among some that covers the path, and no other covers more of it;
* `endsSegment_iff` — the byte test of a table decides `Covers` for a prefix of the path;
* `normalize_shape`, `normalize_ne_nil`, `normalize_normalize` — the form of a filed prefix.
-/

/-- A prefix covers a path that it equals, or in which a slash follows it. The root covers every
    path that starts with a slash. -/
def Covers (key path : List Char) : Prop :=
  path = key ∨ key ++ ['/'] <+: path ∨ (key = ['/'] ∧ key <+: path)

instance (key path : List Char) : Decidable (Covers key path) :=
  inferInstanceAs (Decidable (path = key ∨ key ++ ['/'] <+: path ∨ (key = ['/'] ∧ key <+: path)))

/-- The longest among some prefixes that cover a path. -/
structure IsLongestCover (keys : List (List Char)) (path key : List Char) : Prop where
  mem : key ∈ keys
  covers : Covers key path
  longest : ∀ other ∈ keys, Covers other path → other.length ≤ key.length

/-- Whatever covers a path is a prefix of it. -/
theorem Covers.isPrefix {key path : List Char} (h : Covers key path) : key <+: path := by
  rcases h with rfl | h | ⟨_, h⟩
  · exact List.prefix_refl path
  · exact (List.prefix_append key ['/']).trans h
  · exact h

/-- Only one prefix is the longest. -/
theorem IsLongestCover.unique {keys : List (List Char)} {path key key' : List Char}
    (h : IsLongestCover keys path key) (h' : IsLongestCover keys path key') : key = key' := by
  have hle : key.length ≤ key'.length := h'.longest key h.mem h.covers
  have hge : key'.length ≤ key.length := h.longest key' h'.mem h'.covers
  have hpre : key <+: key' :=
    List.prefix_of_prefix_length_le h.covers.isPrefix h'.covers.isPrefix hle
  exact hpre.eq_of_length_le hge

/-- The byte test for a segment boundary decides whether a prefix of the path covers it. -/
theorem endsSegment_iff {key path : List Char} (h : key <+: path) :
    PathTable.endsSegment path key = true ↔ Covers key path := by
  obtain ⟨rest, rfl⟩ := h
  -- The three tests of the table, each beside the case of `Covers` that it stands for.
  have hwhole : Utf8.size (key ++ rest) = Utf8.size key ↔ key ++ rest = key := by
    constructor
    · intro hs
      exact Utf8.eq_of_size_eq (List.prefix_refl _) (List.prefix_append key rest) hs
    · intro he
      rw [he]
  have hslash : rest.head? = some '/' ↔ key ++ ['/'] <+: key ++ rest := by
    rw [List.prefix_append_right_inj]
    cases rest with
    | nil => simp
    | cons c rest => simp [List.cons_prefix_cons, eq_comm]
  have hroot : key = ['/'] ↔ key = ['/'] ∧ key <+: key ++ rest :=
    ⟨fun hk => ⟨hk, List.prefix_append key rest⟩, And.left⟩
  simp only [PathTable.endsSegment, Bool.or_eq_true, beq_iff_eq, Utf8.byteAt?_size_eq_slash_iff]
  rw [hwhole, hslash, hroot, Covers]
  constructor
  · rintro ((hr | hw) | hs)
    · exact .inr (.inr hr)
    · exact .inl hw
    · exact .inr (.inl hs)
  · rintro (hw | hs | hr)
    · exact .inl (.inr hw)
    · exact .inr hs
    · exact .inl (.inl hr)

/-! ### The form of a filed prefix -/

/-- No slash is left at the end. -/
theorem getLast?_dropSlashes (path : List Char) : (dropSlashes path).getLast? ≠ some '/' := by
  intro h
  rw [dropSlashes, List.getLast?_reverse] at h
  have hnot := List.head?_dropWhile_not (· == '/') path.reverse
  rw [h] at hnot
  simp at hnot

/-- A text without a slash at the end is kept. -/
theorem dropSlashes_eq_self {path : List Char} (h : path.getLast? ≠ some '/') :
    dropSlashes path = path := by
  rw [dropSlashes]
  have hrev : path.reverse.head? ≠ some '/' := by rwa [List.head?_reverse]
  cases hp : path.reverse with
  | nil => simpa using (List.reverse_eq_nil_iff.1 hp).symm
  | cons c cs =>
    have hc : (c == '/') = false := by
      rw [hp, List.head?_cons] at hrev
      simpa using hrev
    rw [List.dropWhile_cons_of_neg (by simp [hc]), ← hp, List.reverse_reverse]

/-- A text in the form of a filed prefix is kept. -/
theorem normalize_eq_self {cs : List Char} (h : ('/' :: cs).getLast? ≠ some '/') :
    normalize ('/' :: cs) = '/' :: cs := by
  simp only [normalize, dropSlashes_eq_self h]

/-- The two forms of a filed prefix: the root, or a slash in front and none at the end. -/
theorem normalize_shape (path : List Char) : normalize path = ['/'] ∨
    ∃ cs, normalize path = '/' :: cs ∧ ('/' :: cs).getLast? ≠ some '/' := by
  have hlast : (dropSlashes path).getLast? ≠ some '/' := getLast?_dropSlashes path
  cases hd : dropSlashes path with
  | nil => exact .inl (by simp only [normalize, hd])
  | cons c cs =>
    rw [hd] at hlast
    by_cases hc : c = '/'
    · subst hc
      exact .inr ⟨cs, by simp only [normalize, hd], hlast⟩
    · exact .inr ⟨c :: cs, by simp [normalize, hd, hc], by rwa [List.getLast?_cons_cons]⟩

/-- A filed prefix is not empty. -/
theorem normalize_ne_nil (path : List Char) : normalize path ≠ [] := by
  rcases normalize_shape path with hshape | ⟨cs, hshape, -⟩
  · rw [hshape]
    exact List.cons_ne_nil _ _
  · rw [hshape]
    exact List.cons_ne_nil _ _

/-- The form of a filed prefix is its own. -/
theorem normalize_normalize (path : List Char) : normalize (normalize path) = normalize path := by
  rcases normalize_shape path with hshape | ⟨cs, hshape, hlast⟩
  · rw [hshape]
    rfl
  · rw [hshape, normalize_eq_self hlast]

end Gatehouse.Routing
