import Mathlib.Data.List.Basic

namespace Gatehouse.Places

/-!
# Places of a list

A list around one of its places: what stands before it, the member there, and what comes after. A
member that is replaced or removed is replaced or removed between the same two parts.

* `exists_split_of_getElem?`, `exists_split_map_of_getElem?` — the two parts;
* `countP_set_add`, `countP_eraseIdx_add` — how many members pass a test once the one at a place is
  replaced or removed; `count_set_add` — how often a member occurs then.
-/

variable {α : Type} {xs : List α} {i : Nat} {a : α}

/-- The parts before and after a place, which stay when its member is replaced or removed. -/
theorem exists_split_of_getElem? (h : xs[i]? = some a) :
    ∃ before after, xs = before ++ a :: after ∧ (∀ b, xs.set i b = before ++ b :: after) ∧
      xs.eraseIdx i = before ++ after := by
  obtain ⟨hlt, rfl⟩ := List.getElem?_eq_some_iff.1 h
  refine ⟨xs.take i, xs.drop (i + 1), ?_, fun b => ?_, List.eraseIdx_eq_take_drop_succ xs i⟩
  · rw [List.getElem_cons_drop, List.take_append_drop]
  · rw [List.set_eq_take_append_cons_drop, if_pos hlt]

/-- The parts stay as well when the members are looked at through a function. -/
theorem exists_split_map_of_getElem? {β : Type} (f : α → β) (h : xs[i]? = some a) :
    ∃ before after, xs = before ++ a :: after ∧
      ∀ b, (xs.map f).set i b = before.map f ++ b :: after.map f := by
  obtain ⟨hlt, rfl⟩ := List.getElem?_eq_some_iff.1 h
  refine ⟨xs.take i, xs.drop (i + 1), ?_, fun b => ?_⟩
  · rw [List.getElem_cons_drop, List.take_append_drop]
  · rw [List.set_eq_take_append_cons_drop, List.length_map, if_pos hlt, List.map_take,
      List.map_drop]

/-- Stated as sums, since a difference of counts might be cut off at zero. -/
theorem countP_set_add (p : α → Bool) (h : xs[i]? = some a) (b : α) :
    (xs.set i b).countP p + (p a).toNat = xs.countP p + (p b).toNat := by
  obtain ⟨before, after, hxs, hset, -⟩ := exists_split_of_getElem? h
  rw [hset, hxs, List.countP_append, List.countP_append, List.countP_cons, List.countP_cons]
  cases p a <;> cases p b <;> simp <;> omega

theorem count_set_add [DecidableEq α] (c : α) (h : xs[i]? = some a) (b : α) :
    (xs.set i b).count c + (if a = c then 1 else 0) = xs.count c + if b = c then 1 else 0 := by
  have hone : ∀ d : α, (d == c).toNat = if d = c then 1 else 0 := by
    intro d
    by_cases hd : d = c
    · rw [if_pos hd, hd, beq_self_eq_true]
      rfl
    · rw [if_neg hd, beq_false_of_ne hd]
      rfl
  have hcount := countP_set_add (· == c) h b
  rwa [hone, hone] at hcount

theorem countP_eraseIdx_add (p : α → Bool) (h : xs[i]? = some a) :
    (xs.eraseIdx i).countP p + (p a).toNat = xs.countP p := by
  obtain ⟨before, after, hxs, -, herase⟩ := exists_split_of_getElem? h
  rw [herase, hxs, List.countP_append, List.countP_append, List.countP_cons]
  cases p a <;> simp
  omega

end Gatehouse.Places
