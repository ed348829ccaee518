import Gatehouse.Server.Lifecycle

namespace Gatehouse.Server

/-!
# Overlapping calls

One lock guards the lifecycle of a server. Starting and stopping try the lock and give up when it
is held; looking at the state or the addresses waits for it. Each call takes the lock, does its
work, and gives the lock back, and other calls may come in between any two of these steps.

* `Call`, `Reply` — the calls and what they return;
* `Shared`, `Shared.step?` — a server in use by any number of calls, step by step;
* `Shared.steps?` — a whole interleaving.
-/

/-- A call on a server. -/
inductive Call where
  | start
  | stop
  | state
  | addresses
  deriving DecidableEq, Repr, Inhabited

/-- Whether a call changes the lifecycle, and so tries the lock instead of waiting for it. -/
def Call.isTransition : Call → Bool
  | .start | .stop => true
  | .state | .addresses => false

/-- What a call returns. -/
inductive Reply where
  | done (result : Except ServerError Unit)
  | state (s : ServerState)
  | addresses (as : List Net.SocketAddress)

/-- The reply of a transition that found the lock held. -/
def Reply.concurrent : Reply := .done (.error (.lifecycle .concurrentTransition))

/-- How far a call has come. -/
inductive Progress where
  | issued
  | holding
  | worked (reply : Reply)
  | returned (reply : Reply)

/-- A server in use: the machine, the number of the call that holds the lock, and the calls in the
    order they were issued. -/
structure Shared where
  server : Server
  machine : Net.Machine
  holder : Option Nat
  calls : List (Call × Progress)

/-- What happens next. -/
inductive Step where
  | issue (call : Call)
  | acquire (number : Nat)
  | work (number : Nat)
  | release (number : Nat)
  deriving DecidableEq, Repr, Inhabited

namespace Shared

/-- A server that nobody uses. -/
def ofServer (m : Net.Machine) (s : Server) : Shared := ⟨s, m, none, []⟩

/-- Records how far a call has come. -/
def advance (s : Shared) (number : Nat) (call : Call) (p : Progress) : Shared :=
  { s with calls := s.calls.set number (call, p) }

/-- The work of a call under the lock. -/
def perform (s : Shared) : Call → Reply × Shared
  | .start =>
    let (result, server, machine) := s.server.start s.machine
    (.done result, { s with server := server, machine := machine })
  | .stop =>
    let (result, server, machine) := s.server.stop s.machine
    (.done result, { s with server := server, machine := machine })
  | .state => (.state s.server.state, s)
  | .addresses => (.addresses s.server.addresses, s)

/-- One step; `none` when it cannot happen. -/
def step? (s : Shared) : Step → Option Shared
  | .issue call => some { s with calls := s.calls ++ [(call, .issued)] }
  | .acquire number =>
    match s.calls[number]?, s.holder with
    | some (call, .issued), none =>
      some { s.advance number call .holding with holder := some number }
    | some (call, .issued), some _ =>
      if call.isTransition then some (s.advance number call (.returned .concurrent)) else none
    | _, _ => none
  | .work number =>
    match s.calls[number]? with
    | some (call, .holding) =>
      let (reply, s) := s.perform call
      some (s.advance number call (.worked reply))
    | _ => none
  | .release number =>
    match s.calls[number]? with
    | some (call, .worked reply) =>
      some { s.advance number call (.returned reply) with holder := none }
    | _ => none

/-- Steps one after another; `none` when one of them cannot happen. -/
def steps? (s : Shared) (steps : List Step) : Option Shared := steps.foldlM step? s

/-- The reply of a call that has returned. -/
def reply? (s : Shared) (number : Nat) : Option Reply :=
  match s.calls[number]? with
  | some (_, .returned reply) => some reply
  | _ => none

/-- A call from its start to its end without another in between. -/
def alone (number : Nat) (call : Call) : List Step :=
  [.issue call, .acquire number, .work number, .release number]

/-- A call during which other calls try the lock, once each. -/
def parked (call : Call) (others : List Call) : List Step :=
  [.issue call, .acquire 0]
    ++ others.zipIdx.flatMap (fun p => [.issue p.1, .acquire (p.2 + 1)])
    ++ [.work 0, .release 0]

end Shared

end Gatehouse.Server
