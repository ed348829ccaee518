import Gatehouse.Worker.Gate

namespace Gatehouse.Worker

/-!
# Traffic at a gate

Calls of `tryAcquire` that overlap, one atomic access at a time, while connections that were let in
end. Every order of these steps is possible.

* `Traffic`, `Traffic.start` — a gate and the calls present at it;
* `Traffic.step?`, `Traffic.steps?` — what may happen;
* `Traffic.live`, `Traffic.owed` — open connections, and calls that will take back what they added;
* `Traffic.isQuiet` — no call is in progress.
-/

/-- What happens next. Calls are numbered by their place among those present. -/
inductive TrafficStep where
  | arrive
  | access (number : Nat)
  | leave (number : Nat)
  deriving DecidableEq, Repr, Inhabited

/-- A gate and the calls present at it. -/
structure Traffic where
  gate : Gate
  attempts : List Attempt
  deriving DecidableEq, Repr, Inhabited

namespace Traffic

/-- A gate at which nobody has arrived. -/
def start (high low : Nat) : Traffic := ⟨Gate.start high low, []⟩

/-- One step; `none` when it cannot happen. A connection that ends is counted out in one access. -/
def step? (t : Traffic) : TrafficStep → Option Traffic
  | .arrive => some { t with attempts := t.attempts ++ [.readPaused] }
  | .access number =>
    match t.attempts[number]? with
    | none | some .granted | some .refused => none
    | some a => some ⟨(a.step t.gate).2, t.attempts.set number (a.step t.gate).1⟩
  | .leave number =>
    match t.attempts[number]? with
    | some .granted => some ⟨t.gate.release, t.attempts.eraseIdx number⟩
    | some .refused => some { t with attempts := t.attempts.eraseIdx number }
    | _ => none

/-- Steps one after another; `none` when one of them cannot happen. -/
def steps? (t : Traffic) (steps : List TrafficStep) : Option Traffic := steps.foldlM step? t

/-- The open connections. -/
def live (t : Traffic) : Nat := t.attempts.count .granted

/-- The calls that will take back the one they added. -/
def owed (t : Traffic) : Nat := t.attempts.countP (·.owes)

/-- Whether no call is in progress. -/
def isQuiet (t : Traffic) : Bool := t.attempts.all fun a => a == .granted || a == .refused

@[simp] theorem live_start (high low : Nat) : (start high low).live = 0 := rfl

@[simp] theorem owed_start (high low : Nat) : (start high low).owed = 0 := rfl

@[simp] theorem isQuiet_start (high low : Nat) : (start high low).isQuiet = true := rfl

/-- Whoever arrives is neither let in nor counted yet. -/
theorem arrive_eq (t : Traffic) :
    t.step? .arrive = some ⟨t.gate, t.attempts ++ [.readPaused]⟩ := rfl

end Traffic

end Gatehouse.Worker
