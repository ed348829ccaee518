import Gatehouse.Proofs.Worker.Hysteresis
import Mathlib.Data.List.Induction

namespace Gatehouse.Worker

open Admission

/-!
# Which attempts are refused

The answer to an attempt is settled by what happened before it: either all connections the gate
admits are open, or an attempt was refused for that reason and the count has not come down to the
low mark since. The gate remembers the second in its pause, which it sets and ends at attempts only.

* `Admission.attempt_eq_false_iff` — the answer in terms of the count and the pause;
* `RefusedSince` — an earlier refusal that is still in force;
* `paused_and_lt_iff_refusedSince` — the pause in terms of what happened;
* `attempt_refused_iff` — the answer in terms of what happened.
-/

variable {high low : Nat} {a b c : Admission} {turns : List Turn} {turn : Turn}

/-! ### One attempt -/

namespace Admission

/-- An attempt is refused at the high mark, and by a paused gate above the low mark. -/
theorem attempt_eq_false_iff (h : a.Counted high low) :
    a.attempt.1 = false ↔
      high ≤ a.live ∨ (a.gate.paused = true ∧ min low high < a.live) := by
  constructor
  · intro hrefused
    rw [← h.lowMark, ← h.active, ← h.highMark]
    simp only [attempt, Gate.tryAcquire] at hrefused
    split at hrefused
    · next hpaused => exact .inr (by simpa using hpaused)
    · split at hrefused
      · next hfull => exact .inl hfull
      · cases hrefused
  · rintro (hfull | ⟨hpaused, habove⟩)
    · exact attempt_of_full h hfull
    · exact attempt_of_paused h hpaused habove

/-- A granted attempt leaves the gate open. -/
theorem paused_attempt_of_granted (h : a.attempt.1 = true) : a.attempt.2.gate.paused = false := by
  simp only [attempt, Gate.tryAcquire] at h ⊢
  split at h
  · cases h
  · next hopen =>
    rw [if_neg hopen]
    split at h
    · cases h
    · next hroom => rw [if_neg hroom]

/-- A refused attempt lets nobody in. -/
theorem live_attempt_of_refused (h : a.attempt.1 = false) : a.attempt.2.live = a.live :=
  congrArg (fun answer : Bool => a.live + answer.toNat) h

/-- No more connections are open than the high mark says. -/
theorem live_le_run? (hrun : (start high low).run? turns = some a) : a.live ≤ high := by
  have hkept : a.Counted high low ∧ a.live ≤ high := by
    refine Runs.kept_of_foldlM (P := fun s => s.Counted high low ∧ s.live ≤ high) ?_
      ⟨counted_start high low, Nat.zero_le high⟩ hrun
    rintro s turn t ⟨hs, hle⟩ hturn
    refine ⟨hs.take? hturn, ?_⟩
    cases turn with
    | attempt =>
      obtain rfl := Option.some.inj hturn
      cases hanswer : s.attempt.1 with
      | false => rwa [live_attempt_of_refused hanswer]
      | true =>
        -- An attempt is granted below the high mark only.
        have hroom : ¬ high ≤ s.live := fun hfull => by
          rw [attempt_of_full hs hfull] at hanswer
          cases hanswer
        have hlive : s.attempt.2.live = s.live + 1 :=
          congrArg (fun answer : Bool => s.live + answer.toNat) hanswer
        omega
    | leave =>
      obtain ⟨-, hleft⟩ := Option.ite_none_right_eq_some.1 hturn
      obtain rfl := Option.some.inj hleft
      exact Nat.le_trans (Nat.sub_le _ _) hle
  exact hkept.2

/-- The last of some turns. -/
theorem run?_concat_iff :
    a.run? (turns ++ [turn]) = some c ↔ ∃ b, a.run? turns = some b ∧ b.take? turn = some c := by
  simp only [run?, Runs.foldlM_append_eq_some_iff, List.foldlM_cons, List.foldlM_nil, bind_pure]

/-- What comes behind an attempt goes on from what the attempt left. -/
theorem run?_since {before since : List Turn} {s : Admission} (hbefore : s.run? before = some b)
    (hrun : s.run? (before ++ .attempt :: since) = some a) : b.attempt.2.run? since = some a := by
  obtain ⟨b', hbefore', hlater⟩ := Runs.foldlM_append_eq_some_iff.1 hrun
  obtain rfl : b = b' := Option.some.inj (hbefore.symm.trans hbefore')
  obtain ⟨next, hattempt, hrest⟩ := Runs.foldlM_cons_eq_some_iff.1 hlater
  obtain rfl : b.attempt.2 = next := Option.some.inj hattempt
  exact hrest

/-- The count stays above a level for one more turn if it is above it then. -/
theorem StaysAbove.concat {level : Nat} (h : a.StaysAbove level turns)
    (hrun : a.run? turns = some b) (hturn : b.take? turn = some c) (habove : level < c.live) :
    a.StaysAbove level (turns ++ [turn]) := by
  induction turns generalizing a with
  | nil =>
    obtain rfl := Option.some.inj hrun
    refine ⟨h, fun d hd => ?_⟩
    obtain rfl : c = d := Option.some.inj (hturn.symm.trans hd)
    exact habove
  | cons first rest ih =>
    obtain ⟨next, hfirst, hrest⟩ := Runs.foldlM_cons_eq_some_iff.1 hrun
    refine ⟨h.1, fun d hd => ?_⟩
    obtain rfl : next = d := Option.some.inj (hfirst.symm.trans hd)
    exact ih (h.2 next hfirst) hrest

end Admission

/-! ### What happened before -/

/-- Among the turns there is an attempt that was refused with the count at the high mark, and the
    count has stayed above the low mark from then on. -/
def RefusedSince (high low : Nat) (turns : List Turn) : Prop :=
  ∃ (before since : List Turn) (b : Admission), turns = before ++ .attempt :: since ∧
    (start high low).run? before = some b ∧ b.attempt.1 = false ∧ b.live = high ∧
    b.attempt.2.StaysAbove (min low high) since

/-- A refusal stays in force for one more turn if the count is above the low mark then. -/
theorem RefusedSince.concat (h : RefusedSince high low turns)
    (hrun : (start high low).run? turns = some a) (hturn : a.take? turn = some c)
    (habove : min low high < c.live) : RefusedSince high low (turns ++ [turn]) := by
  obtain ⟨before, since, b, rfl, hbefore, hrefused, hlive, hsince⟩ := h
  refine ⟨before, since ++ [turn], b, ?_, hbefore, hrefused, hlive,
    hsince.concat (run?_since hbefore hrun) hturn habove⟩
  rw [List.append_assoc, List.cons_append]

/-- A gate that is paused above the low mark has refused an attempt at the high mark since the count
    was last at the low mark. -/
theorem refusedSince_of_paused (hrun : (start high low).run? turns = some a)
    (hpaused : a.gate.paused = true) (habove : min low high < a.live) :
    RefusedSince high low turns := by
  -- By induction from the last turn back: the pause is older than it, or an attempt set it then.
  induction turns using List.reverseRecOn generalizing a with
  | nil =>
    obtain rfl := Option.some.inj hrun
    cases hpaused
  | append_singleton turns turn ih =>
    obtain ⟨b, hbefore, hturn⟩ := run?_concat_iff.1 hrun
    have hcounted := (counted_start high low).run? hbefore
    cases turn with
    | leave =>
      obtain ⟨-, hleft⟩ := Option.ite_none_right_eq_some.1 hturn
      obtain rfl := Option.some.inj hleft
      have hlive : min low high < b.live := Nat.lt_of_lt_of_le habove (Nat.sub_le _ _)
      exact (ih hbefore hpaused hlive).concat hbefore hturn habove
    | attempt =>
      obtain rfl := Option.some.inj hturn
      have hrefused : b.attempt.1 = false := by
        rw [← Bool.not_eq_true]
        intro hgranted
        rw [paused_attempt_of_granted hgranted] at hpaused
        cases hpaused
      rcases (attempt_eq_false_iff hcounted).1 hrefused with hfull | ⟨hpaused', hlive⟩
      · have hhigh : b.live = high := Nat.le_antisymm (live_le_run? hbefore) hfull
        exact ⟨turns, [], b, rfl, hbefore, hrefused, hhigh, habove⟩
      · exact (ih hbefore hpaused' hlive).concat hbefore hturn habove

/-- The pause of a gate is a refusal that is still in force. -/
theorem paused_and_lt_iff_refusedSince (hrun : (start high low).run? turns = some a) :
    a.gate.paused = true ∧ min low high < a.live ↔ RefusedSince high low turns := by
  refine ⟨fun ⟨hpaused, habove⟩ => refusedSince_of_paused hrun hpaused habove, ?_⟩
  rintro ⟨before, since, b, rfl, hbefore, hrefused, -, hsince⟩
  exact paused_run? ((counted_start high low).run? hbefore).attempt
    (paused_attempt_of_refused hrefused) hsince (run?_since hbefore hrun)

/-! ### The answer to an attempt -/

/-- After any turns, an attempt is refused when the count is at the high mark, or when an attempt
    was refused there before and the count has stayed above the low mark since, and otherwise it is
    granted. The count is that of the open connections; a refused attempt leaves it, and a granted
    one adds one. -/
theorem attempt_refused_iff (hrun : (start high low).run? turns = some a) :
    (a.attempt.1 = false ↔ high ≤ a.live ∨ RefusedSince high low turns) ∧
    (a.attempt.1 = false → a.attempt.2.gate.active = a.gate.active) ∧
    (a.attempt.1 = true → a.attempt.2.gate.active = a.gate.active + 1) ∧
    a.gate.active = a.live := by
  have hcounted := (counted_start high low).run? hrun
  refine ⟨?_, Gate.tryAcquire_refused a.gate, Gate.tryAcquire_granted a.gate, hcounted.active⟩
  rw [attempt_eq_false_iff hcounted, paused_and_lt_iff_refusedSince hrun]

/-- Three connections, a fourth attempt that is refused, and one connection less: the next attempt
    is refused as well, though the count is below the high mark. -/
theorem attempt_refused_iff_afterThree :
    (start 3 1).run? [.attempt, .attempt, .attempt, .attempt, .leave] = some ⟨⟨2, true, 3, 1⟩, 2⟩ ∧
    (attempt ⟨⟨2, true, 3, 1⟩, 2⟩).1 = false ∧
    RefusedSince 3 1 [.attempt, .attempt, .attempt, .attempt, .leave] := by
  have hrun : (start 3 1).run? [.attempt, .attempt, .attempt, .attempt, .leave]
      = some ⟨⟨2, true, 3, 1⟩, 2⟩ := by
    decide
  have hrefused : (attempt ⟨⟨2, true, 3, 1⟩, 2⟩).1 = false := by decide
  have hbelow : ¬ 3 ≤ (⟨⟨2, true, 3, 1⟩, 2⟩ : Admission).live := by decide
  exact ⟨hrun, hrefused, ((attempt_refused_iff hrun).1.1 hrefused).resolve_left hbelow⟩

end Gatehouse.Worker
