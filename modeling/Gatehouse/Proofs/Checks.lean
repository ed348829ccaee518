namespace Gatehouse.Checks

/-!
# Checks in sequence

A check that is made of several steps passes when each of them does.

* `bind_eq_ok_iff`, `andThen_eq_ok_iff`, `bind_eq_error_iff` — a step and what comes after it;
* `not_of_guard` — a test that ends a computation with a fault;
* `mapError_eq_ok_iff`, `mapError_eq_error_iff` — faults under another name;
* `forM_eq_ok_iff`, `exists_of_forM_eq_error` — a check of every member of a list.
-/

variable {ε ε' α β : Type}

theorem bind_eq_ok_iff {x : Except ε α} {f : α → Except ε β} {b : β} :
    x >>= f = .ok b ↔ ∃ a, x = .ok a ∧ f a = .ok b := by
  cases x with
  | error e => simp [bind, Except.bind]
  | ok a => simp [bind, Except.bind]

theorem andThen_eq_ok_iff {x : Except ε Unit} {f : Unit → Except ε β} {b : β} :
    x >>= f = .ok b ↔ x = .ok () ∧ f () = .ok b := by
  rw [bind_eq_ok_iff]
  exact ⟨fun ⟨(), hx, hf⟩ => ⟨hx, hf⟩, fun ⟨hx, hf⟩ => ⟨(), hx, hf⟩⟩

theorem bind_eq_error_iff {x : Except ε α} {f : α → Except ε β} {e : ε} :
    x >>= f = .error e ↔ x = .error e ∨ ∃ a, x = .ok a ∧ f a = .error e := by
  cases x with
  | error e' => simp [bind, Except.bind]
  | ok a => simp [bind, Except.bind]

/-- A computation that went on behind a test did not find what the test looks for. -/
theorem not_of_guard {p : Prop} [Decidable p] {e : ε} {f : Unit → Except ε β} {b : β}
    (h : (if p then throw e >>= f else f ()) = .ok b) : ¬ p ∧ f () = .ok b := by
  by_cases hp : p
  · rw [if_pos hp] at h
    cases h
  · rw [if_neg hp] at h
    exact ⟨hp, h⟩

theorem mapError_eq_ok_iff {x : Except ε α} {f : ε → ε'} {a : α} :
    x.mapError f = .ok a ↔ x = .ok a := by
  cases x with
  | error e => exact iff_of_false nofun nofun
  | ok b =>
    constructor
    · rintro ⟨⟩
      rfl
    · rintro ⟨⟩
      rfl

theorem mapError_eq_error_iff {x : Except ε α} {f : ε → ε'} {e' : ε'} :
    x.mapError f = .error e' ↔ ∃ e, x = .error e ∧ f e = e' := by
  cases x with
  | error e =>
    constructor
    · intro h
      exact ⟨e, rfl, Except.error.inj h⟩
    · rintro ⟨e, ⟨⟩, rfl⟩
      rfl
  | ok a => exact iff_of_false nofun nofun

/-- A check passes over a list when every member passes. -/
theorem forM_eq_ok_iff (check : α → Except ε Unit) (xs : List α) :
    forM xs check = .ok () ↔ ∀ x ∈ xs, check x = .ok () := by
  induction xs with
  | nil => exact iff_of_true rfl (fun x hx => absurd hx List.not_mem_nil)
  | cons x xs ih => rw [List.forM_cons, List.forall_mem_cons, ← ih, andThen_eq_ok_iff]

/-- The fault of a list is that of one of its members. -/
theorem exists_of_forM_eq_error {check : α → Except ε Unit} {xs : List α} {e : ε}
    (h : forM xs check = .error e) : ∃ x ∈ xs, check x = .error e := by
  induction xs with
  | nil => cases h
  | cons x xs ih =>
    rw [List.forM_cons] at h
    rcases bind_eq_error_iff.1 h with hx | ⟨_, -, hlater⟩
    · exact ⟨x, List.mem_cons_self, hx⟩
    · obtain ⟨y, hy, hfault⟩ := ih hlater
      exact ⟨y, List.mem_cons_of_mem x hy, hfault⟩

end Gatehouse.Checks
