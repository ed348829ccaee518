import Gatehouse.Proofs.Runs
import Gatehouse.Worker.Gate

namespace Gatehouse.Worker

/-!
# Hysteresis of the connection gate

Between the two water marks the gate remembers what happened before: an attempt there is refused or
granted depending on the past. What it remembers is whether an attempt was refused. That the count
reached the high mark leaves no trace by itself: when connections end before the next attempt, it
is forgotten.

* `Turn`, `Admission` — a gate whose calls follow one another, with the connections it let in;
* `Admission.StaysAbove` — the count stays above a level while some turns are taken;
* `ClosesAtHighMark`, `not_closesAtHighMark` — refusing from the high mark on is not what it does;
* `attempt_refused_since_refusal` — refusing from an attempt at the high mark on is.
-/

/-- What happens next at a gate whose calls follow one another. -/
inductive Turn where
  | attempt
  | leave
  deriving DecidableEq, Repr

/-- A gate, and how many of the connections it let in are open. -/
structure Admission where
  gate : Gate
  live : Nat
  deriving DecidableEq, Repr

namespace Admission

/-- A gate that nobody has come to. -/
def start (high low : Nat) : Admission := ⟨.start high low, 0⟩

/-- A connection tries to get in. -/
def attempt (a : Admission) : Bool × Admission :=
  (a.gate.tryAcquire.1, ⟨a.gate.tryAcquire.2, a.live + a.gate.tryAcquire.1.toNat⟩)

/-- One turn; only a connection that is open can leave. -/
def take? (a : Admission) : Turn → Option Admission
  | .attempt => some a.attempt.2
  | .leave => if 0 < a.live then some ⟨a.gate.release, a.live - 1⟩ else none

/-- Turns one after another; `none` when one of them cannot happen. -/
def run? (a : Admission) (turns : List Turn) : Option Admission := turns.foldlM take? a

/-- The number of open connections is above a level now and after each of some turns. -/
def StaysAbove (level : Nat) (a : Admission) : List Turn → Prop
  | [] => level < a.live
  | turn :: turns => level < a.live ∧ ∀ b, a.take? turn = some b → b.StaysAbove level turns

theorem StaysAbove.lt {level : Nat} {a : Admission} {turns : List Turn}
    (h : a.StaysAbove level turns) : level < a.live := by
  cases turns with
  | nil => exact h
  | cons turn turns => exact h.1

/-! ### What a turn keeps -/

/-- The gate counts the open connections, against the marks it was made with. -/
structure Counted (high low : Nat) (a : Admission) : Prop where
  active : a.gate.active = a.live
  highMark : a.gate.high = high
  lowMark : a.gate.low = min low high

variable {high low : Nat} {a b : Admission}

theorem counted_start (high low : Nat) : (start high low).Counted high low := ⟨rfl, rfl, rfl⟩

/-- A gate keeps its marks at an attempt. -/
theorem marks_tryAcquire (g : Gate) :
    g.tryAcquire.2.high = g.high ∧ g.tryAcquire.2.low = g.low := by
  unfold Gate.tryAcquire
  split
  · exact ⟨rfl, rfl⟩
  · split <;> exact ⟨rfl, rfl⟩

theorem Counted.attempt (h : a.Counted high low) : a.attempt.2.Counted high low := by
  obtain ⟨hhigh, hlow⟩ := marks_tryAcquire a.gate
  refine ⟨?_, hhigh.trans h.highMark, hlow.trans h.lowMark⟩
  show a.gate.tryAcquire.2.active = a.live + a.gate.tryAcquire.1.toNat
  cases hanswer : a.gate.tryAcquire.1 with
  | false => rw [Gate.tryAcquire_refused _ hanswer, h.active]; rfl
  | true => rw [Gate.tryAcquire_granted _ hanswer, h.active]; rfl

theorem Counted.take? {turn : Turn} (h : a.Counted high low) (hturn : a.take? turn = some b) :
    b.Counted high low := by
  cases turn with
  | attempt =>
    obtain rfl := Option.some.inj hturn
    exact h.attempt
  | leave =>
    obtain ⟨-, hleft⟩ := Option.ite_none_right_eq_some.1 hturn
    obtain rfl := Option.some.inj hleft
    exact ⟨congrArg (· - 1) h.active, h.highMark, h.lowMark⟩

theorem Counted.run? {turns : List Turn} (h : a.Counted high low) (hrun : a.run? turns = some b) :
    b.Counted high low :=
  Runs.kept_of_foldlM (fun ha hturn => ha.take? hturn) h hrun

/-! ### The pause -/

/-- A refused attempt leaves the gate paused. -/
theorem paused_attempt_of_refused (h : a.attempt.1 = false) : a.attempt.2.gate.paused = true := by
  simp only [attempt, Gate.tryAcquire] at h ⊢
  split at h
  · next hpaused =>
    rw [if_pos hpaused]
    exact (Bool.and_eq_true_iff.1 hpaused).1
  · next hopen =>
    rw [if_neg hopen]
    split at h
    · next hfull => rw [if_pos hfull]
    · cases h

/-- At the high mark, an attempt is refused whether or not the gate is paused. -/
theorem attempt_of_full (h : a.Counted high low) (hfull : high ≤ a.live) :
    a.attempt.1 = false := by
  have hhigh : a.gate.high ≤ a.gate.active := by
    rw [h.highMark, h.active]
    exact hfull
  simp only [attempt, Gate.tryAcquire, ge_iff_le, if_pos hhigh]
  split <;> rfl

/-- Above the low mark, a paused gate refuses. -/
theorem attempt_of_paused (h : a.Counted high low) (hpaused : a.gate.paused = true)
    (habove : min low high < a.live) : a.attempt.1 = false := by
  have hlow : a.gate.low < a.gate.active := by
    rw [h.lowMark, h.active]
    exact habove
  simp [attempt, Gate.tryAcquire, hpaused, hlow]

/-- Above the low mark, no turn ends the pause. -/
theorem paused_take? {turn : Turn} (h : a.Counted high low) (hpaused : a.gate.paused = true)
    (habove : min low high < a.live) (hturn : a.take? turn = some b) : b.gate.paused = true := by
  cases turn with
  | attempt =>
    obtain rfl := Option.some.inj hturn
    exact paused_attempt_of_refused (attempt_of_paused h hpaused habove)
  | leave =>
    obtain ⟨-, hleft⟩ := Option.ite_none_right_eq_some.1 hturn
    obtain rfl := Option.some.inj hleft
    exact hpaused

/-- A pause lasts as long as the count stays above the low mark. -/
theorem paused_run? {turns : List Turn} (h : a.Counted high low) (hpaused : a.gate.paused = true)
    (habove : a.StaysAbove (min low high) turns) (hrun : a.run? turns = some b) :
    b.gate.paused = true ∧ min low high < b.live := by
  induction turns generalizing a with
  | nil =>
    obtain rfl := Option.some.inj hrun
    exact ⟨hpaused, habove⟩
  | cons turn turns ih =>
    obtain ⟨next, hturn, hrest⟩ := Option.bind_eq_some_iff.1 hrun
    exact ih (h.take? hturn) (paused_take? h hpaused habove.lt hturn) (habove.2 next hturn) hrest

end Admission

/-! ### From which moment on attempts are refused -/

open Admission

/-- From the moment the count reaches the high mark, every attempt is refused as long as the count
    has stayed above the low mark since. -/
def ClosesAtHighMark (high low : Nat) : Prop :=
  ∀ (before since : List Turn) (a b : Admission), (start high low).run? before = some a →
    high ≤ a.live → a.run? since = some b → a.StaysAbove (min low high) since →
    b.attempt.1 = false

/-- Three connections reach the mark and one of them leaves before the next attempt, which is
    granted although the count never came down to the low mark. -/
theorem not_closesAtHighMark : ¬ ∀ high low, ClosesAtHighMark high low := by
  intro h
  have habove : StaysAbove 1 ⟨⟨3, false, 3, 1⟩, 3⟩ [.leave] := by
    refine ⟨by decide, fun b hb => ?_⟩
    obtain rfl := Option.some.inj hb
    exact (by decide : 1 < 2)
  have hrefused := h 3 1 [.attempt, .attempt, .attempt] [.leave] ⟨⟨3, false, 3, 1⟩, 3⟩
    ⟨⟨2, false, 3, 1⟩, 2⟩ (by decide) (by decide) (by decide) habove
  exact absurd hrefused (by decide)

/-- From an attempt on that is made at the high mark, or is refused for another reason, every
    attempt is refused as long as the count has stayed above the low mark since. -/
theorem attempt_refused_since_refusal {high low : Nat} {before since : List Turn}
    {a b : Admission} (hbefore : (start high low).run? before = some a)
    (hclosed : high ≤ a.live ∨ a.attempt.1 = false) (hsince : a.attempt.2.run? since = some b)
    (habove : a.attempt.2.StaysAbove (min low high) since) :
    a.attempt.1 = false ∧ b.attempt.1 = false := by
  have hcounted := (counted_start high low).run? hbefore
  have hrefused : a.attempt.1 = false := hclosed.elim (attempt_of_full hcounted) id
  obtain ⟨hpaused, hlive⟩ :=
    paused_run? hcounted.attempt (paused_attempt_of_refused hrefused) habove hsince
  exact ⟨hrefused, attempt_of_paused (hcounted.attempt.run? hsince) hpaused hlive⟩

/-- The same three connections, but an attempt is made before one of them leaves. -/
theorem attempt_refused_since_refusal_three :
    (start 3 1).run? [.attempt, .attempt, .attempt] = some ⟨⟨3, false, 3, 1⟩, 3⟩ ∧
    (attempt ⟨⟨3, false, 3, 1⟩, 3⟩).2.run? [.leave] = some ⟨⟨2, true, 3, 1⟩, 2⟩ ∧
    (attempt ⟨⟨3, false, 3, 1⟩, 3⟩).2.StaysAbove 1 [.leave] ∧
    (attempt ⟨⟨3, false, 3, 1⟩, 3⟩).1 = false ∧ (attempt ⟨⟨2, true, 3, 1⟩, 2⟩).1 = false := by
  have hbefore : (start 3 1).run? [.attempt, .attempt, .attempt] = some ⟨⟨3, false, 3, 1⟩, 3⟩ := by
    decide
  have hsince : (attempt ⟨⟨3, false, 3, 1⟩, 3⟩).2.run? [.leave] = some ⟨⟨2, true, 3, 1⟩, 2⟩ := by
    decide
  have habove : (attempt ⟨⟨3, false, 3, 1⟩, 3⟩).2.StaysAbove 1 [.leave] := by
    refine ⟨by decide, fun b hb => ?_⟩
    obtain rfl := Option.some.inj hb
    exact (by decide : 1 < 2)
  exact ⟨hbefore, hsince, habove,
    attempt_refused_since_refusal hbefore (.inl (Nat.le_refl 3)) hsince habove⟩

end Gatehouse.Worker
