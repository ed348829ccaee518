namespace Gatehouse.Worker

/-!
# Connection gate

Counts open connections against two water marks. An attempt that finds the count at the high mark
is refused and pauses the gate; a paused gate refuses until the count is at or below the low mark.

* `Gate`, `Gate.tryAcquire`, `Gate.release` — the gate when calls follow one another;
* `Attempt`, `Attempt.step` — one call as a sequence of atomic steps, for calls that overlap;
* `Attempt.finish` — a call that no other interrupts, which does what `Gate.tryAcquire` does.
-/

/-- Open connections, whether the gate is paused, and its marks. -/
structure Gate where
  active : Nat
  paused : Bool
  high : Nat
  low : Nat
  deriving DecidableEq, Repr, Inhabited

namespace Gate

/-- An open gate; the low mark is never above the high one. -/
def start (high low : Nat) : Gate := ⟨0, false, high, min low high⟩

/-- Counts a new connection, or refuses it. -/
def tryAcquire (g : Gate) : Bool × Gate :=
  if g.paused && g.low < g.active then (false, g)
  else if g.active ≥ g.high then (false, { g with paused := true })
  else (true, { g with active := g.active + 1, paused := false })

/-- A connection is gone. -/
def release (g : Gate) : Gate := { g with active := g.active - 1 }

theorem tryAcquire_refused (g : Gate) (h : (g.tryAcquire).1 = false) :
    (g.tryAcquire).2.active = g.active := by
  unfold tryAcquire at h ⊢
  split
  · rfl
  · split
    · rfl
    · simp_all

theorem tryAcquire_granted (g : Gate) (h : (g.tryAcquire).1 = true) :
    (g.tryAcquire).2.active = g.active + 1 := by
  unfold tryAcquire at h ⊢
  split
  · simp_all
  · split
    · simp_all
    · rfl

end Gate

/-! ### Overlapping calls -/

/-- How far a call of `tryAcquire` has come: the atomic access it makes next, or its answer. -/
inductive Attempt where
  | readPaused
  | readActive
  | clearPaused
  | addOne
  | takeBack
  | setPaused
  | granted
  | refused
  deriving DecidableEq, Repr, Inhabited

namespace Attempt

/-- One atomic access. -/
def step (g : Gate) : Attempt → Attempt × Gate
  | .readPaused => (if g.paused then .readActive else .addOne, g)
  | .readActive => (if g.low < g.active then .refused else .clearPaused, g)
  | .clearPaused => (.addOne, { g with paused := false })
  | .addOne => (if g.active ≥ g.high then .takeBack else .granted, { g with active := g.active + 1 })
  | .takeBack => (.setPaused, { g with active := g.active - 1 })
  | .setPaused => (.refused, { g with paused := true })
  | .granted => (.granted, g)
  | .refused => (.refused, g)

/-- Steps taken without interruption. -/
def steps : Nat → Attempt → Gate → Attempt × Gate
  | 0, a, g => (a, g)
  | n + 1, a, g => steps n (a.step g).1 (a.step g).2

/-- The most accesses one call makes. -/
def maxSteps : Nat := 6

/-- A call from its first access to its answer. -/
def finish (g : Gate) : Attempt × Gate := steps maxSteps .readPaused g

/-- Whether a call has added one to the count that it will take back. -/
def owes : Attempt → Bool
  | .takeBack => true
  | _ => false

/-- An uninterrupted call answers as `Gate.tryAcquire` does and leaves the same gate. -/
theorem finish_eq (g : Gate) :
    finish g = (if (g.tryAcquire).1 then .granted else .refused, (g.tryAcquire).2) := by
  obtain ⟨active, paused, high, low⟩ := g
  cases paused
  · by_cases h : high ≤ active <;> simp [finish, maxSteps, steps, step, Gate.tryAcquire, h]
  · by_cases h' : low < active
    · simp [finish, maxSteps, steps, step, Gate.tryAcquire, h']
    · by_cases h : high ≤ active <;>
        simp [finish, maxSteps, steps, step, Gate.tryAcquire, h, h']

end Attempt

end Gatehouse.Worker
