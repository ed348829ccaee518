import Gatehouse.Handler

namespace Gatehouse.Worker

open Http

/-!
# Task gate

At most as many handlers run at once as there are worker threads. A call waits for a permit, its
execution holds the permit, and the permit is given back however the execution ends. Once the
worker is shut down nothing starts any more and whatever was not answered is answered so.

* `Fate`, `gated` — one call through the gate, as a handler;
* `TaskGate`, `TaskGate.step?` — all calls of one gate, event by event;
* `TaskGate.call` — a call that finds a free permit.
-/

/-- The answer to a call that the worker no longer serves. -/
def shutdownOutcome : Outcome := .failed (.lifecycle .workerShutdown)

/-- What an execution that has ended is answered with. -/
def settle : Outcome → Outcome
  | .aborted reason => .failed (.handler ("handler panicked: " ++ reason))
  | outcome => outcome

@[simp] theorem settle_answered (r : Response) : settle (.answered r) = .answered r := rfl

@[simp] theorem settle_failed (e : ServerError) : settle (.failed e) = .failed e := rfl

theorem settle_ne_aborted (o : Outcome) (reason : String) : settle o ≠ .aborted reason := by
  cases o <;> simp [settle]

/-! ### One call -/

/-- What becomes of a call: executed to its end, cut short by a shutdown, or never started. -/
inductive Fate where
  | executed
  | cancelled
  | refused
  deriving DecidableEq, Repr, Inhabited

/-- A handler behind the gate. -/
def gated (fate : Fate) : Wrapper := fun inner request =>
  match fate with
  | .executed => { inner request with outcome := settle (inner request).outcome }
  | .cancelled => { inner request with outcome := shutdownOutcome }
  | .refused => ⟨[], shutdownOutcome⟩

/-- A call behind the gate is never left without an answer. -/
theorem gated_ne_aborted (fate : Fate) (inner : Handler) (request : Request) (reason : String) :
    (gated fate inner request).outcome ≠ .aborted reason := by
  cases fate <;> simp [gated, shutdownOutcome, settle_ne_aborted]

/-! ### All calls -/

/-- How far a call has come. -/
inductive Phase where
  | waiting
  | running
  | answered
  deriving DecidableEq, Repr, Inhabited

/-- A gate: its width, its free permits, whether it is open, the calls in order of arrival, and
    the answers given so far by number of the call. -/
structure TaskGate where
  width : Nat
  free : Nat
  isOpen : Bool
  calls : List Phase
  answers : List (Nat × Outcome)
  deriving DecidableEq, Repr, Inhabited

/-- What can happen at a gate. -/
inductive TaskEvent where
  | arrive
  | start (call : Nat)
  | finish (call : Nat) (outcome : Outcome)
  | cancel (call : Nat)
  | shutdown
  deriving DecidableEq, Repr, Inhabited

namespace TaskGate

/-- A gate for a number of threads; it lets at least one execution through. -/
def ofThreads (n : Nat) : TaskGate := ⟨max n 1, max n 1, true, [], []⟩

/-- The number of calls in a phase. -/
def count (g : TaskGate) (p : Phase) : Nat := g.calls.count p

/-- Answers a call. -/
def answer (g : TaskGate) (call : Nat) (outcome : Outcome) : TaskGate :=
  { g with calls := g.calls.set call .answered, answers := g.answers ++ [(call, outcome)] }

/-- The calls that wait, by number. -/
def waiting (g : TaskGate) : List Nat :=
  (List.range g.calls.length).filter fun i => g.calls[i]? = some .waiting

/-- A phase after a shutdown: nothing waits any more. -/
def afterShutdown : Phase → Phase
  | .waiting => .answered
  | p => p

/-- Answers every waiting call and lets no further one through. -/
def close (g : TaskGate) : TaskGate :=
  { g with
    isOpen := false
    calls := g.calls.map afterShutdown
    answers := g.answers ++ g.waiting.map fun call => (call, shutdownOutcome) }

/-- One event; `none` when it cannot happen. An execution is only cancelled after a shutdown. -/
def step? (g : TaskGate) : TaskEvent → Option TaskGate
  | .arrive =>
    let arrived := { g with calls := g.calls ++ [.waiting] }
    if g.isOpen then some arrived else some (arrived.answer g.calls.length shutdownOutcome)
  | .start call =>
    if g.isOpen ∧ 0 < g.free ∧ g.calls[call]? = some .waiting then
      some { g with free := g.free - 1, calls := g.calls.set call .running }
    else none
  | .finish call outcome =>
    if g.calls[call]? = some .running then
      some { g.answer call (settle outcome) with free := g.free + 1 }
    else none
  | .cancel call =>
    if !g.isOpen ∧ g.calls[call]? = some .running then
      some { g.answer call shutdownOutcome with free := g.free + 1 }
    else none
  | .shutdown => some g.close

/-- Events one after another; `none` when one of them cannot happen. -/
def steps? (g : TaskGate) (events : List TaskEvent) : Option TaskGate := events.foldlM step? g

/-- The answers a call has been given. -/
def answersOf (g : TaskGate) (call : Nat) : List Outcome :=
  (g.answers.filter (·.1 = call)).map (·.2)

/-- The events of a call that finds a free permit and ends before anything else happens. -/
def callEvents (g : TaskGate) (outcome : Outcome) : List TaskEvent :=
  if g.isOpen then [.arrive, .start g.calls.length, .finish g.calls.length outcome] else [.arrive]

/-- What becomes of such a call. -/
def fate (g : TaskGate) : Fate := if g.isOpen then .executed else .refused

/-- A call that finds a free permit, and the gate after it. -/
def call (g : TaskGate) (inner : Handler) (request : Request) : Run × TaskGate :=
  let run := gated g.fate inner request
  (run, (g.steps? (g.callEvents (inner request).outcome)).getD g)

@[simp] theorem free_answer (g : TaskGate) (call : Nat) (o : Outcome) :
    (g.answer call o).free = g.free := rfl

@[simp] theorem free_close (g : TaskGate) : g.close.free = g.free := rfl

@[simp] theorem isOpen_close (g : TaskGate) : g.close.isOpen = false := rfl

end TaskGate

end Gatehouse.Worker
