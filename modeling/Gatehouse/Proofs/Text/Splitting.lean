import Gatehouse.Text.Blank
import Mathlib.Data.List.DropRight

namespace Gatehouse.Text

/-!
# Splitting and trimming

Texts cut at a separator or freed of the blanks around them, told by how the pieces make up the
text.

* `splitOnce_eq_some_iff` — the text in front of the first separator and behind it;
* `splitLast_eq_some_iff` — the same for the last separator;
* `IsCut`, `isCut_iff`, `splitAll_append_cons`, `splitAll_append_of_notMem` — the pieces between all
  separators;
* `joinWith_cons`, `infix_joinWith`, `takeWhile_joinWith` — pieces put together, where they stand,
  and the first one taken off again;
* `IsTrimmed`, `trim_eq_self_iff` — a text without a blank at either end is left as it is;
* `exists_blanks_around_trim`, `trimStart_append_of_mem`, `trimEnd_append_of_last`,
  `trim_append_append`, `IsTrimmed.trim_between` — what is trimmed off a text, and what is left.
-/

variable {sep : Char} {cs a b : List Char}

/-! ### One separator -/

/-- The first separator is the one that no other stands in front of. -/
theorem splitOnce_eq_some_iff : splitOnce sep cs = some (a, b) ↔ cs = a ++ sep :: b ∧ sep ∉ a := by
  constructor
  · intro h
    induction cs generalizing a with
    | nil => cases h
    | cons c cs ih =>
      rw [splitOnce] at h
      split at h
      · next hc =>
        obtain ⟨rfl, rfl⟩ := Prod.mk.inj (Option.some.inj h)
        exact ⟨by rw [hc]; rfl, List.not_mem_nil⟩
      · next hc =>
        obtain ⟨⟨a', b'⟩, hrest, heq⟩ := Option.map_eq_some_iff.1 h
        obtain ⟨rfl, rfl⟩ := Prod.mk.inj heq
        obtain ⟨hcs, hnot⟩ := ih hrest
        refine ⟨by rw [hcs]; rfl, ?_⟩
        rw [List.mem_cons, not_or]
        exact ⟨fun hsep => hc hsep.symm, hnot⟩
  · rintro ⟨rfl, hnot⟩
    induction a with
    | nil => simp [splitOnce]
    | cons c a ih =>
      rw [List.mem_cons, not_or] at hnot
      rw [List.cons_append, splitOnce, if_neg (fun hc => hnot.1 hc.symm), ih hnot.2]
      rfl

/-- The last separator is the first one from behind. -/
theorem splitLast_eq_some_iff : splitLast sep cs = some (a, b) ↔ cs = a ++ sep :: b ∧ sep ∉ b := by
  constructor
  · intro h
    obtain ⟨⟨back, front⟩, hsplit, heq⟩ := Option.map_eq_some_iff.1 h
    obtain ⟨rfl, rfl⟩ := Prod.mk.inj heq
    obtain ⟨hcs, hnot⟩ := splitOnce_eq_some_iff.1 hsplit
    have hturned := congrArg List.reverse hcs
    rw [List.reverse_reverse] at hturned
    refine ⟨by rw [hturned]; simp, ?_⟩
    rwa [List.mem_reverse]
  · rintro ⟨rfl, hnot⟩
    have hsplit : splitOnce sep (a ++ sep :: b).reverse = some (b.reverse, a.reverse) := by
      refine splitOnce_eq_some_iff.2 ⟨by simp, ?_⟩
      rwa [List.mem_reverse]
    rw [splitLast, hsplit]
    simp

/-! ### Every separator -/

/-- The pieces that the separators of a text cut it into: no piece holds a separator, and with a
    separator between them they are the text. -/
structure IsCut (sep : Char) (cs : List Char) (pieces : List (List Char)) : Prop where
  nonempty : pieces ≠ []
  free : ∀ p ∈ pieces, sep ∉ p
  joined : joinWith [sep] pieces = cs

theorem splitAll_eq_splitOn (sep : Char) (cs : List Char) : splitAll sep cs = cs.splitOn sep := by
  induction cs with
  | nil => rfl
  | cons c cs ih =>
    rw [splitAll, List.splitOn_cons_eq_if_modifyHead, ih]
    by_cases hc : c = sep
    · simp [hc]
    · obtain ⟨p, ps, hps⟩ := List.exists_cons_of_ne_nil (List.splitOn_ne_nil sep cs)
      simp [hc, hps]

theorem joinWith_eq_intercalate (sep : List Char) (pieces : List (List Char)) :
    joinWith sep pieces = sep.intercalate pieces := by
  induction pieces with
  | nil => rfl
  | cons p ps ih =>
    cases ps with
    | nil => simp [joinWith]
    | cons q qs =>
      rw [List.intercalate_cons_cons, ← ih]
      rfl

/-- Every piece but the first has a separator in front. -/
theorem joinWith_cons (sep p : List Char) (ps : List (List Char)) :
    joinWith sep (p :: ps) = p ++ ps.flatMap (sep ++ ·) := by
  induction ps generalizing p with
  | nil => simp [joinWith]
  | cons q qs ih =>
    rw [joinWith, ih]
    · simp
    · nofun

/-- What pieces are joined to consists of them and the separator. -/
theorem mem_joinWith {c : Char} {sep : List Char} {pieces : List (List Char)}
    (h : c ∈ joinWith sep pieces) : c ∈ sep ∨ ∃ p ∈ pieces, c ∈ p := by
  cases pieces with
  | nil => cases h
  | cons p ps =>
    rw [joinWith_cons, List.mem_append, List.mem_flatMap] at h
    rcases h with h | ⟨q, hq, h⟩
    · exact .inr ⟨p, List.mem_cons_self, h⟩
    · rcases List.mem_append.1 h with h | h
      · exact .inl h
      · exact .inr ⟨q, List.mem_cons_of_mem _ hq, h⟩

/-- Every piece stands in what the pieces are joined to. -/
theorem infix_joinWith {sep p : List Char} {pieces : List (List Char)} (h : p ∈ pieces) :
    p <:+: joinWith sep pieces := by
  obtain ⟨before, after, rfl⟩ := List.append_of_mem h
  cases before with
  | nil =>
    rw [List.nil_append, joinWith_cons]
    exact (List.prefix_append _ _).isInfix
  | cons q qs =>
    rw [List.cons_append, joinWith_cons, List.flatMap_append, List.flatMap_cons]
    exact ⟨q ++ (qs.flatMap (sep ++ ·) ++ sep), after.flatMap (sep ++ ·), by simp⟩

/-- What stands in front of the first separator is the first piece. -/
theorem takeWhile_joinWith {p : List Char} (hp : sep ∉ p) (ps : List (List Char)) :
    (joinWith [sep] (p :: ps)).takeWhile (· != sep) = p := by
  have hall : ∀ c ∈ p, (c != sep) = true := by
    intro c hc
    rw [bne_iff_ne]
    rintro rfl
    exact hp hc
  rw [joinWith_cons, List.takeWhile_append_of_pos hall]
  cases ps with
  | nil => simp
  | cons q qs => simp

/-- No piece of a list cut at a separator holds the separator. -/
theorem notMem_of_mem_splitOn {α : Type*} [BEq α] [LawfulBEq α] {x : α} {xs p : List α}
    (h : p ∈ xs.splitOn x) : x ∉ p := by
  induction xs generalizing p with
  | nil => simp_all
  | cons y ys ih =>
    rw [List.splitOn_cons_eq_if_modifyHead] at h
    by_cases hy : y = x
    · rw [if_pos (beq_iff_eq.2 hy), List.mem_cons] at h
      rcases h with rfl | h
      · exact List.not_mem_nil
      · exact ih h
    · -- The element goes in front of the first of the pieces behind it.
      obtain ⟨q, qs, hqs⟩ := List.exists_cons_of_ne_nil (List.splitOn_ne_nil x ys)
      rw [if_neg (mt beq_iff_eq.1 hy), hqs, List.modifyHead_cons, List.mem_cons] at h
      rw [hqs] at ih
      rcases h with rfl | h
      · have hq : x ∉ q := ih List.mem_cons_self
        simp [Ne.symm hy, hq]
      · exact ih (List.mem_cons_of_mem _ h)

theorem notMem_of_mem_splitAll {p : List Char} (h : p ∈ splitAll sep cs) : sep ∉ p := by
  rw [splitAll_eq_splitOn] at h
  exact notMem_of_mem_splitOn h

/-- A text has one cut. -/
theorem isCut_iff {pieces : List (List Char)} : IsCut sep cs pieces ↔ splitAll sep cs = pieces := by
  constructor
  · intro h
    rw [← h.joined, splitAll_eq_splitOn, joinWith_eq_intercalate]
    exact List.splitOn_intercalate sep h.free h.nonempty
  · rintro rfl
    have hjoined : joinWith [sep] (splitAll sep cs) = cs := by
      rw [splitAll_eq_splitOn, joinWith_eq_intercalate]
      exact List.intercalate_splitOn sep
    exact ⟨splitAll_ne_nil sep cs, fun p hp => notMem_of_mem_splitAll hp, hjoined⟩

/-- A separator cuts a text in two, which are cut on their own. -/
theorem splitAll_append_cons (sep : Char) (a b : List Char) :
    splitAll sep (a ++ sep :: b) = splitAll sep a ++ splitAll sep b := by
  simp only [splitAll_eq_splitOn]
  exact List.splitOn_append_cons_self a b

/-- A piece of a text has its characters from the text. -/
theorem mem_of_mem_splitAll {sep c : Char} {p : List Char} (hp : p ∈ splitAll sep cs) (hc : c ∈ p) :
    c ∈ cs := by
  have hinfix : p <:+: joinWith [sep] (splitAll sep cs) := infix_joinWith hp
  rw [(isCut_iff.2 rfl).joined] at hinfix
  exact hinfix.subset hc

/-- What holds no separator is put in front of the first piece. -/
theorem splitAll_append_of_notMem {p : List Char} {ps : List (List Char)} (ha : sep ∉ a)
    (hb : splitAll sep b = p :: ps) : splitAll sep (a ++ b) = (a ++ p) :: ps := by
  induction a with
  | nil => exact hb
  | cons c a ih =>
    rw [List.mem_cons, not_or] at ha
    rw [List.cons_append, splitAll, if_neg (Ne.symm ha.1), ih ha.2]
    rfl

/-! ### Blanks at the ends -/

/-- No blank stands at either end of the text. -/
def IsTrimmed (cs : List Char) : Prop :=
  ∀ h : cs ≠ [], isBlank (cs.head h) = false ∧ isBlank (cs.getLast h) = false

theorem trimStart_eq_self_iff :
    trimStart cs = cs ↔ ∀ h : cs ≠ [], isBlank (cs.head h) = false := by
  rw [trimStart, List.dropWhile_eq_self_iff]
  simp [List.length_pos_iff, List.head_eq_getElem]

theorem trimEnd_eq_self_iff :
    trimEnd cs = cs ↔ ∀ h : cs ≠ [], isBlank (cs.getLast h) = false := by
  have hlast : trimEnd cs = cs ↔ _ := List.rdropWhile_eq_self_iff
  simpa using hlast

theorem trimStart_sublist (cs : List Char) : (trimStart cs).Sublist cs := List.dropWhile_sublist _

theorem isPrefix_trimEnd (cs : List Char) : trimEnd cs <+: cs := List.rdropWhile_prefix isBlank cs

/-- What is not blank is left. -/
theorem mem_trimEnd {c : Char} (hc : c ∈ cs) (h : isBlank c = false) : c ∈ trimEnd cs := by
  have hsplit : trimEnd cs ++ cs.rtakeWhile isBlank = cs := List.rdropWhile_append_rtakeWhile
  rw [← hsplit, List.mem_append] at hc
  refine hc.resolve_right fun hback => ?_
  rw [List.mem_rtakeWhile_imp hback] at h
  cases h

/-- Without blanks a text is what is left of it at the end, if that has none. -/
theorem filter_eq_trimEnd (h : ∀ c ∈ trimEnd cs, isBlank c = false) :
    cs.filter (fun c => !isBlank c) = trimEnd cs := by
  have hsplit : trimEnd cs ++ cs.rtakeWhile isBlank = cs := List.rdropWhile_append_rtakeWhile
  have hfront : (trimEnd cs).filter (fun c => !isBlank c) = trimEnd cs := by
    rw [List.filter_eq_self]
    intro c hc
    rw [h c hc]
    rfl
  have hback : (cs.rtakeWhile isBlank).filter (fun c => !isBlank c) = [] := by
    rw [List.filter_eq_nil_iff]
    intro c hc
    rw [List.mem_rtakeWhile_imp hc]
    nofun
  calc cs.filter (fun c => !isBlank c)
      = (trimEnd cs ++ cs.rtakeWhile isBlank).filter (fun c => !isBlank c) := by rw [hsplit]
    _ = trimEnd cs := by rw [List.filter_append, hfront, hback, List.append_nil]

/-- A text is left as it is when no blank stands at either end. -/
theorem trim_eq_self_iff : trim cs = cs ↔ IsTrimmed cs := by
  rw [IsTrimmed, forall_and, ← trimStart_eq_self_iff, ← trimEnd_eq_self_iff]
  constructor
  · intro h
    -- The ends are trimmed one after the other, and the second step cannot make up for the first.
    have hfirst : trimStart cs = cs := by
      refine (trimStart_sublist cs).eq_of_length_le ?_
      calc cs.length = (trim cs).length := by rw [h]
        _ ≤ (trimStart cs).length := (isPrefix_trimEnd _).length_le
    refine ⟨hfirst, ?_⟩
    rw [trim, hfirst] at h
    exact h
  · rintro ⟨hfirst, hlast⟩
    rw [trim, hfirst, hlast]

/-- A text is what is left of it and the blanks that stood around that. -/
theorem exists_blanks_around_trim (cs : List Char) :
    ∃ before after, cs = before ++ trim cs ++ after ∧ (∀ c ∈ before, isBlank c = true) ∧
      ∀ c ∈ after, isBlank c = true := by
  refine ⟨cs.takeWhile isBlank, (trimStart cs).rtakeWhile isBlank, ?_,
    fun c hc => List.mem_takeWhile_imp hc, fun c hc => List.mem_rtakeWhile_imp hc⟩
  have hend : trim cs ++ (trimStart cs).rtakeWhile isBlank = trimStart cs :=
    List.rdropWhile_append_rtakeWhile
  rw [List.append_assoc, hend]
  exact List.takeWhile_append_dropWhile.symm

theorem trimEnd_append_of_blank (cs : List Char) {after : List Char}
    (h : ∀ c ∈ after, isBlank c = true) : trimEnd (cs ++ after) = trimEnd cs := by
  have hturned : ∀ c ∈ after.reverse, isBlank c = true := fun c hc => h c (List.mem_reverse.1 hc)
  rw [trimEnd, trimEnd, List.reverse_append, List.dropWhile_append_of_pos hturned]

/-- In front of a character that is not blank the start of a text is trimmed on its own. -/
theorem trimStart_append_of_mem {c : Char} (hc : c ∈ a) (hkept : isBlank c = false)
    (b : List Char) : trimStart (a ++ b) = trimStart a ++ b := by
  have hne : ¬ (a.dropWhile isBlank).isEmpty = true := by
    intro hempty
    have hblank := List.dropWhile_eq_nil_iff.1 (List.isEmpty_iff.1 hempty) c hc
    rw [hkept] at hblank
    cases hblank
  rw [trimStart, List.dropWhile_append, if_neg hne]
  rfl

/-- Behind a character that is not blank the end of a text is trimmed on its own. -/
theorem trimEnd_append_of_last (hne : a ≠ []) (hlast : isBlank (a.getLast hne) = false)
    (b : List Char) : trimEnd (a ++ b) = a ++ trimEnd b := by
  have ha : trimEnd a = a := trimEnd_eq_self_iff.2 fun _ => hlast
  unfold trimEnd at ha ⊢
  rw [List.reverse_append, List.dropWhile_append]
  split
  · next hblank =>
    rw [List.isEmpty_iff] at hblank
    rw [ha, hblank, List.reverse_nil, List.append_nil]
  · rw [List.reverse_append, List.reverse_reverse]

/-- Of a text between blanks, the text is left if it has no blank at either end. -/
theorem trim_append_append {before core after : List Char} (hcore : trim core = core)
    (hne : core ≠ []) (hbefore : ∀ c ∈ before, isBlank c = true)
    (hafter : ∀ c ∈ after, isBlank c = true) : trim (before ++ core ++ after) = core := by
  have hends := trim_eq_self_iff.1 hcore hne
  have hstart : trimStart (before ++ core ++ after) = core ++ after := by
    have hhead : trimStart (core ++ after) = core ++ after :=
      trimStart_eq_self_iff.2 fun _ => by rw [List.head_append_of_ne_nil hne]; exact hends.1
    rw [List.append_assoc, trimStart, List.dropWhile_append_of_pos hbefore]
    exact hhead
  rw [trim, hstart, trimEnd_append_of_blank core hafter]
  exact trimEnd_eq_self_iff.2 fun _ => hends.2

/-- Of blanks alone nothing is left. -/
theorem trim_of_forall_blank (h : ∀ c ∈ cs, isBlank c = true) : trim cs = [] := by
  rw [trim, trimStart, List.dropWhile_eq_nil_iff.2 h]
  rfl

theorem isTrimmed_of_forall (h : ∀ c ∈ cs, isBlank c = false) : IsTrimmed cs :=
  fun hne => ⟨h _ (List.head_mem hne), h _ (List.getLast_mem hne)⟩

/-- Trimmed texts put together are trimmed. -/
theorem IsTrimmed.append (ha : IsTrimmed a) (hb : IsTrimmed b) : IsTrimmed (a ++ b) := by
  by_cases hnil : a = []
  · rw [hnil, List.nil_append]
    exact hb
  · by_cases hnil' : b = []
    · rw [hnil', List.append_nil]
      exact ha
    · intro h
      rw [List.head_append_of_ne_nil hnil, List.getLast_append_of_ne_nil h hnil']
      exact ⟨(ha hnil).1, (hb hnil').2⟩

/-- Of a trimmed text between blanks, the text is left. -/
theorem IsTrimmed.trim_between {before core after : List Char} (hcore : IsTrimmed core)
    (hbefore : ∀ c ∈ before, isBlank c = true) (hafter : ∀ c ∈ after, isBlank c = true) :
    trim (before ++ core ++ after) = core := by
  by_cases hnil : core = []
  · rw [hnil, List.append_nil]
    exact trim_of_forall_blank fun c hc => (List.mem_append.1 hc).elim (hbefore c) (hafter c)
  · exact trim_append_append (trim_eq_self_iff.2 hcore) hnil hbefore hafter

end Gatehouse.Text
