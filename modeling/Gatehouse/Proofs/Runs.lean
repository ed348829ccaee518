namespace Gatehouse.Runs

/-!
# Runs of steps that may not be possible

A run takes one step after another, and does not take place when one of its steps is not possible
where it comes.

* `foldlM_cons_eq_some_iff`, `foldlM_append_eq_some_iff` — a run in two parts;
* `kept_of_foldlM` — what every step keeps, a run keeps.
-/

variable {σ ι : Type} {step : σ → ι → Option σ} {s t : σ}

theorem foldlM_cons_eq_some_iff {i : ι} {is : List ι} :
    (i :: is).foldlM step s = some t ↔
      ∃ next, step s i = some next ∧ is.foldlM step next = some t := by
  rw [List.foldlM_cons, Option.bind_eq_bind, Option.bind_eq_some_iff]

theorem foldlM_append_eq_some_iff {first later : List ι} :
    (first ++ later).foldlM step s = some t ↔
      ∃ next, first.foldlM step s = some next ∧ later.foldlM step next = some t := by
  rw [List.foldlM_append, Option.bind_eq_bind, Option.bind_eq_some_iff]

/-- What every step keeps, a run keeps. -/
theorem kept_of_foldlM {P : σ → Prop} {is : List ι}
    (hkept : ∀ {s i t}, P s → step s i = some t → P t) (h : P s)
    (hrun : is.foldlM step s = some t) : P t := by
  induction is generalizing s with
  | nil =>
    obtain rfl := Option.some.inj hrun
    exact h
  | cons i is ih =>
    obtain ⟨next, hstep, hlater⟩ := foldlM_cons_eq_some_iff.1 hrun
    exact ih (hkept h hstep) hlater

end Gatehouse.Runs
