import Gatehouse.Proofs.Places
import Gatehouse.Proofs.Runs
import Gatehouse.Worker.Traffic
import Mathlib.Tactic.IntervalCases

namespace Gatehouse.Worker

/-!
# Overlapping calls at the connection gate

A call that finds the gate full has added one to the count by then, and takes it back in a later
access. In between the count is above the number of open connections, and other calls see it there.
What holds at every moment is that the count is the number of open connections and of calls that
still owe one.

* `Attempt.isCounted` — the calls that stand for one in the count; `Attempt.active_step`,
  `Attempt.step_eq_granted_iff` — what one access does to the count, and when it lets the call in;
* `Traffic.Step` — what a step does; `Traffic.step?_eq_some_iff`;
* `Traffic.Tallied` — the count and the limit, kept by every step; `Traffic.Tallied.run`;
* `Traffic.TakesOff` — the steps that lower the count; `Traffic.active_of_step`;
* `Traffic.LetsIn`, `Traffic.letsIn_of_below_marks` — a call that no other interrupts is let in
  below the marks;
* `live_le_high_of_steps` — the count and the limit after any steps.
-/

namespace Attempt

/-- Whether the call stands for one in the count: it was let in, or it has yet to take back the one
    it added. -/
def isCounted : Attempt → Bool
  | .granted | .takeBack => true
  | _ => false

/-- Whether the call has its answer. -/
def isAnswered : Attempt → Bool
  | .granted | .refused => true
  | _ => false

/-! ### One access -/

variable {a : Attempt} {g : Gate}

/-- An access changes the count by what it changes about the standing of its call. -/
theorem active_step (h : a.isCounted = true → 0 < g.active) :
    (a.step g).2.active + a.isCounted.toNat = g.active + (a.step g).1.isCounted.toNat := by
  cases a with
  | readPaused => cases hpaused : g.paused <;> simp [step, hpaused, isCounted]
  | readActive => by_cases hlow : g.low < g.active <;> simp [step, hlow, isCounted]
  | clearPaused => rfl
  | addOne =>
    -- Whether the gate is full or not, the call stands for the one it adds.
    have hnext : (step g .addOne).1.isCounted = true := by
      by_cases hfull : g.active ≥ g.high <;> simp [step, hfull, isCounted]
    rw [hnext]
    rfl
  | takeBack =>
    have hpos : 0 < g.active := h rfl
    show g.active - 1 + 1 = g.active + 0
    omega
  | setPaused => rfl
  | granted => rfl
  | refused => rfl

/-- A call is let in by the access that adds one, if the count is below the high mark there. -/
theorem step_eq_granted_iff (hpending : a.isAnswered = false) :
    (a.step g).1 = .granted ↔ a = .addOne ∧ g.active < g.high := by
  cases a with
  | readPaused => cases hpaused : g.paused <;> simp [step, hpaused]
  | readActive => by_cases hlow : g.low < g.active <;> simp [step, hlow]
  | addOne =>
    by_cases hfull : g.active ≥ g.high
    · simp [step, hfull]
    · simp [step, hfull, Nat.not_le.1 hfull]
  | clearPaused => simp [step]
  | takeBack => simp [step]
  | setPaused => simp [step]
  | granted => cases hpending
  | refused => cases hpending

/-- No access moves a mark. -/
theorem marks_step (a : Attempt) (g : Gate) :
    (a.step g).2.high = g.high ∧ (a.step g).2.low = g.low := by
  cases a <;> exact ⟨rfl, rfl⟩

end Attempt

namespace Traffic

/-! ### One step -/

/-- What a step does: somebody arrives, a call makes its next access, or a call that has its answer
    leaves, with its connection if it was let in. -/
inductive Step (t : Traffic) : TrafficStep → Traffic → Prop where
  | arrived : Step t .arrive ⟨t.gate, t.attempts ++ [.readPaused]⟩
  | accessed {number : Nat} {a : Attempt} (present : t.attempts[number]? = some a)
      (pending : a.isAnswered = false) :
      Step t (.access number) ⟨(a.step t.gate).2, t.attempts.set number (a.step t.gate).1⟩
  | ended {number : Nat} (present : t.attempts[number]? = some .granted) :
      Step t (.leave number) ⟨t.gate.release, t.attempts.eraseIdx number⟩
  | wentAway {number : Nat} (present : t.attempts[number]? = some .refused) :
      Step t (.leave number) ⟨t.gate, t.attempts.eraseIdx number⟩

variable {high low : Nat} {t t' : Traffic} {s : TrafficStep}

theorem step?_eq_some_iff : t.step? s = some t' ↔ Step t s t' := by
  constructor
  · intro h
    cases s with
    | arrive =>
      obtain rfl := Option.some.inj h
      exact .arrived
    | access number =>
      simp only [step?] at h
      split at h
      · cases h
      · cases h
      · cases h
      · next a hgranted hrefused hpresent =>
        obtain rfl := Option.some.inj h
        refine .accessed hpresent ?_
        cases a with
        | granted => exact absurd rfl hgranted
        | refused => exact absurd rfl hrefused
        | _ => rfl
    | leave number =>
      simp only [step?] at h
      split at h
      · next hgranted =>
        obtain rfl := Option.some.inj h
        exact .ended hgranted
      · next hrefused =>
        obtain rfl := Option.some.inj h
        exact .wentAway hrefused
      · cases h
  · intro h
    cases h with
    | arrived => rfl
    | @accessed number a present pending =>
      simp only [step?, present]
      cases a with
      | granted => cases pending
      | refused => cases pending
      | _ => rfl
    | ended present => simp only [step?, present]
    | wentAway present => simp only [step?, present]

/-! ### The count and the limit -/

/-- The count is the number of calls that stand for one in it, against the marks that the gate was
    made with, and no more connections are open than the high mark admits. -/
structure Tallied (high low : Nat) (t : Traffic) : Prop where
  active : t.gate.active = t.attempts.countP (·.isCounted)
  live : t.live ≤ high
  highMark : t.gate.high = high
  lowMark : t.gate.low = min low high

theorem tallied_start (high low : Nat) : (start high low).Tallied high low :=
  ⟨rfl, Nat.zero_le high, rfl, rfl⟩

/-- The calls that stand for one in the count are the open connections and the calls that owe. -/
theorem countP_isCounted (t : Traffic) : t.attempts.countP (·.isCounted) = t.live + t.owed := by
  unfold live owed
  induction t.attempts with
  | nil => rfl
  | cons a as ih =>
    rw [List.countP_cons, List.count_cons, List.countP_cons, ih]
    cases a <;> simp [Attempt.isCounted, Attempt.owes] <;> omega

/-- A call that stands for one in the count keeps the count above zero. -/
theorem Tallied.active_pos {number : Nat} {a : Attempt} (h : t.Tallied high low)
    (hpresent : t.attempts[number]? = some a) (hcounted : a.isCounted = true) :
    0 < t.gate.active := by
  rw [h.active]
  exact List.countP_pos_iff.2 ⟨a, List.mem_of_getElem? hpresent, hcounted⟩

theorem Tallied.live_le_active (h : t.Tallied high low) : t.live ≤ t.gate.active := by
  rw [h.active, countP_isCounted]
  exact Nat.le_add_right _ _

/-- A call without an answer that makes an access is an open connection more if it is let in. -/
theorem live_set_of_pending {number : Nat} {a : Attempt}
    (hpresent : t.attempts[number]? = some a) (hpending : a.isAnswered = false) (g : Gate)
    (b : Attempt) :
    live ⟨g, t.attempts.set number b⟩ = t.live + if b = .granted then 1 else 0 := by
  have hcount := Places.count_set_add Attempt.granted hpresent b
  have hnot : a ≠ .granted := by
    rintro rfl
    cases hpending
  rw [if_neg hnot] at hcount
  exact hcount

/-- An access keeps the tally: its call adds to the open connections only when the count, and so
    their number, is below the high mark. -/
theorem Tallied.access {number : Nat} {a : Attempt} (h : t.Tallied high low)
    (hpresent : t.attempts[number]? = some a) (hpending : a.isAnswered = false) :
    Tallied high low ⟨(a.step t.gate).2, t.attempts.set number (a.step t.gate).1⟩ := by
  obtain ⟨hhigh, hlow⟩ := a.marks_step t.gate
  refine ⟨?_, ?_, hhigh.trans h.highMark, hlow.trans h.lowMark⟩
  · have hcount := Places.countP_set_add (·.isCounted) hpresent (a.step t.gate).1
    have hactive := Attempt.active_step (g := t.gate) (h.active_pos hpresent)
    have htally := h.active
    show (a.step t.gate).2.active = (t.attempts.set number (a.step t.gate).1).countP (·.isCounted)
    omega
  · rw [live_set_of_pending hpresent hpending]
    by_cases hgranted : (a.step t.gate).1 = .granted
    · obtain ⟨-, hbelow⟩ := (Attempt.step_eq_granted_iff hpending).1 hgranted
      have hle := h.live_le_active
      rw [h.highMark] at hbelow
      rw [if_pos hgranted]
      omega
    · rw [if_neg hgranted]
      exact h.live

theorem Tallied.step (h : t.Tallied high low) (hstep : Step t s t') : t'.Tallied high low := by
  cases hstep with
  | arrived =>
    refine ⟨?_, ?_, h.highMark, h.lowMark⟩
    · rw [h.active, List.countP_append]
      rfl
    · show (t.attempts ++ [Attempt.readPaused]).count .granted ≤ high
      rw [List.count_append]
      exact h.live
  | accessed present pending => exact h.access present pending
  | @ended number present =>
    refine ⟨?_, ?_, h.highMark, h.lowMark⟩
    · have hcount : (t.attempts.eraseIdx number).countP (·.isCounted) + 1
          = t.attempts.countP (·.isCounted) :=
        Places.countP_eraseIdx_add (·.isCounted) present
      have htally := h.active
      show t.gate.active - 1 = (t.attempts.eraseIdx number).countP (·.isCounted)
      omega
    · exact Nat.le_trans ((List.eraseIdx_sublist _ _).count_le _) h.live
  | @wentAway number present =>
    refine ⟨?_, ?_, h.highMark, h.lowMark⟩
    · have hcount := Places.countP_eraseIdx_add (·.isCounted) present
      rw [h.active, ← hcount]
      rfl
    · exact Nat.le_trans ((List.eraseIdx_sublist _ _).count_le _) h.live

theorem Tallied.run {steps : List TrafficStep} (h : t.Tallied high low)
    (hrun : t.steps? steps = some t') : t'.Tallied high low :=
  Runs.kept_of_foldlM (fun ht hstep => ht.step (step?_eq_some_iff.1 hstep)) h hrun

/-! ### When the count falls -/

/-- The step takes one off the count: a call takes back the one it added, or a connection ends. -/
def TakesOff (t : Traffic) : TrafficStep → Prop
  | .arrive => False
  | .access number => t.attempts[number]? = some .takeBack
  | .leave number => t.attempts[number]? = some .granted

/-- The count falls by one where a step takes one off, and never falls otherwise. -/
theorem Tallied.active_of_step (h : t.Tallied high low) (hstep : Step t s t') :
    (t.TakesOff s → t'.gate.active + 1 = t.gate.active) ∧
      (¬ t.TakesOff s → t.gate.active ≤ t'.gate.active) := by
  cases hstep with
  | arrived => exact ⟨False.elim, fun _ => Nat.le_refl _⟩
  | @accessed number a present pending =>
    have hactive := Attempt.active_step (g := t.gate) (h.active_pos present)
    constructor
    · intro htakes
      obtain rfl : a = .takeBack := Option.some.inj (present.symm.trans htakes)
      exact hactive
    · intro hkeeps
      -- No other call without an answer stands for one in the count before its access.
      have hnot : a.isCounted = false := by
        cases a with
        | takeBack => exact absurd present hkeeps
        | granted => cases pending
        | _ => rfl
      rw [hnot, Bool.toNat_false, Nat.add_zero] at hactive
      exact hactive ▸ Nat.le_add_right _ _
  | @ended number present =>
    refine ⟨fun _ => ?_, fun hkeeps => absurd present hkeeps⟩
    have hpos : 0 < t.gate.active := h.active_pos present rfl
    show t.gate.active - 1 + 1 = t.gate.active
    omega
  | @wentAway number present =>
    refine ⟨fun htakes => ?_, fun _ => Nat.le_refl _⟩
    cases present.symm.trans htakes

/-! ### A call on its own -/

/-- A call that arrives next and is not interrupted by any other is let in, and counted. -/
def LetsIn (t : Traffic) : Prop :=
  ∃ accesses ≤ Attempt.maxSteps, ∃ t',
    t.steps? (.arrive :: List.replicate accesses (.access t.attempts.length)) = some t' ∧
      t'.attempts = t.attempts ++ [.granted] ∧ t'.gate.active = t.gate.active + 1

/-- The call that came last makes its next access. -/
theorem step?_access_last {a : Attempt} (hpending : a.isAnswered = false) (g : Gate)
    (attempts : List Attempt) :
    step? ⟨g, attempts ++ [a]⟩ (.access attempts.length)
      = some ⟨(a.step g).2, attempts ++ [(a.step g).1]⟩ := by
  have hpresent : (attempts ++ [a])[attempts.length]? = some a := by simp
  have hstep : Step ⟨g, attempts ++ [a]⟩ (.access attempts.length) _ := .accessed hpresent hpending
  rw [step?_eq_some_iff.2 hstep]
  simp

/-- The call that came last makes several accesses, and no other call makes any. -/
theorem steps?_replicate_last (n : Nat) {a : Attempt} {g : Gate} (attempts : List Attempt)
    (hpending : ∀ m < n, (Attempt.steps m a g).1.isAnswered = false) :
    steps? ⟨g, attempts ++ [a]⟩ (List.replicate n (.access attempts.length))
      = some ⟨(Attempt.steps n a g).2, attempts ++ [(Attempt.steps n a g).1]⟩ := by
  induction n generalizing a g with
  | zero => rfl
  | succ n ih =>
    have hfirst : a.isAnswered = false := hpending 0 (Nat.succ_pos n)
    rw [steps?, List.replicate_succ, List.foldlM_cons, step?_access_last hfirst]
    exact ih fun m hm => hpending (m + 1) (Nat.succ_lt_succ hm)

/-- Below both marks a call on its own is let in, whether or not it finds the gate paused. -/
theorem letsIn_of_below_marks (hhigh : t.gate.active < t.gate.high)
    (hlow : t.gate.active ≤ t.gate.low) : t.LetsIn := by
  obtain ⟨⟨active, paused, high, low⟩, attempts⟩ := t
  have hroom : ¬ high ≤ active := Nat.not_le.2 hhigh
  have hdrained : ¬ low < active := Nat.not_lt.2 hlow
  -- It reads the flag and adds one; if the flag is set, it reads the count and clears the flag
  -- first.
  obtain ⟨n, hn, hsteps, hpending⟩ : ∃ n ≤ Attempt.maxSteps,
      Attempt.steps n .readPaused ⟨active, paused, high, low⟩
        = (.granted, ⟨active + 1, false, high, low⟩) ∧
      ∀ m < n, (Attempt.steps m .readPaused ⟨active, paused, high, low⟩).1.isAnswered = false := by
    cases paused with
    | false =>
      refine ⟨2, by decide, by simp [Attempt.steps, Attempt.step, hroom], fun m hm => ?_⟩
      interval_cases m <;> rfl
    | true =>
      refine ⟨4, by decide, by simp [Attempt.steps, Attempt.step, hroom, hdrained],
        fun m hm => ?_⟩
      interval_cases m <;> simp [Attempt.steps, Attempt.step, hdrained, Attempt.isAnswered]
  have hrun := steps?_replicate_last n attempts hpending
  rw [hsteps] at hrun
  exact ⟨n, hn, _, hrun, rfl, rfl⟩

/-! ### After any steps -/

/-- The gate with its flag as given. -/
def withFlag (t : Traffic) (paused : Bool) : Traffic := { t with gate := { t.gate with paused } }

/-- When no call is in progress, none owes. -/
theorem owed_of_isQuiet (h : t.isQuiet = true) : t.owed = 0 := by
  refine List.countP_eq_zero.2 fun a ha => ?_
  have hanswered := List.all_eq_true.1 h a ha
  cases a with
  | takeBack => cases hanswered
  | _ => exact Bool.false_ne_true

end Traffic

open Traffic

/-- However the accesses of calls and the ends of connections are mixed, no more connections are
    open than the high mark admits, and the count is their number and that of the calls that owe
    one. So it is never more than the number of calls and connections present, and where one is
    taken off, there is one to take. When no call is in progress the count is the number of open
    connections, and below the marks a call on its own is let in, whatever the flag was left at. -/
theorem live_le_high_of_steps {high low : Nat} {steps : List TrafficStep} {t : Traffic}
    (hrun : (start high low).steps? steps = some t) :
    t.live ≤ high ∧ t.gate.active = t.live + t.owed ∧ t.gate.active ≤ t.attempts.length ∧
    (∀ s t', t.step? s = some t' →
      (t.TakesOff s → t'.gate.active + 1 = t.gate.active) ∧
      (¬ t.TakesOff s → t.gate.active ≤ t'.gate.active)) ∧
    (t.isQuiet = true → t.gate.active = t.live ∧
      (t.gate.active < high → t.gate.active ≤ min low high →
        ∀ paused, (t.withFlag paused).LetsIn)) := by
  have htally : t.Tallied high low := (tallied_start high low).run hrun
  have hcount : t.gate.active = t.live + t.owed := htally.active.trans t.countP_isCounted
  have hpresent : t.gate.active ≤ t.attempts.length := htally.active ▸ List.countP_le_length
  refine ⟨htally.live, hcount, hpresent, ?_, fun hquiet => ⟨?_, ?_⟩⟩
  · intro s t' hstep
    exact htally.active_of_step (step?_eq_some_iff.1 hstep)
  · rw [hcount, owed_of_isQuiet hquiet, Nat.add_zero]
  · intro hhigh hlow paused
    apply letsIn_of_below_marks
    · show t.gate.active < t.gate.high
      rw [htally.highMark]
      exact hhigh
    · show t.gate.active ≤ t.gate.low
      rw [htally.lowMark]
      exact hlow

/-- Two calls overlap at a gate for one connection: both find it open, the first is let in, the
    second adds one to the count and finds the gate full. Then the connection ends, and the second
    call, which has yet to take back what it added, pauses a gate at which nobody is left. -/
theorem live_le_high_of_steps_pausedEmpty :
    ∃ full empty,
      (start 1 1).steps?
        [.arrive, .arrive, .access 0, .access 1, .access 0, .access 1] = some full ∧
      full.live = 1 ∧ full.owed = 1 ∧ full.gate.active = 2 ∧
      full.steps? [.leave 0, .access 0, .access 0, .leave 0] = some empty ∧
      empty.gate.paused = true ∧ empty.LetsIn := by
  have hempty : (start 1 1).steps? [.arrive, .arrive, .access 0, .access 1, .access 0, .access 1,
      .leave 0, .access 0, .access 0, .leave 0] = some ⟨⟨0, true, 1, 1⟩, []⟩ := by
    decide
  obtain ⟨-, -, -, -, hquiet⟩ := live_le_high_of_steps hempty
  refine ⟨⟨⟨2, false, 1, 1⟩, [.granted, .takeBack]⟩, ⟨⟨0, true, 1, 1⟩, []⟩, by decide, rfl, rfl,
    rfl, by decide, rfl, ?_⟩
  exact (hquiet rfl).2 (by decide) (by decide) true

end Gatehouse.Worker
