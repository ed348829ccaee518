import Gatehouse.Server.Listeners

namespace Gatehouse

open Config

/-!
# Lifecycle

A server is not started, running or stopped, in this order and once. A start that fails leaves it
not started, so that it may be tried again.

* `Lifecycle`, `ServerState` — the state with and without what a running server owns;
* `Server`, `Server.start`, `Server.stop`, `Server.addresses`.
-/

/-- How far a server has come. -/
inductive Lifecycle where
  | notStarted
  | running (listeners : Server.ListenerSet)
  | stopped

/-- How far a server has come, by name. -/
inductive ServerState where
  | notStarted
  | running
  | stopped
  deriving DecidableEq, Repr, Inhabited

/-- The name of a state. -/
def ServerState.text : ServerState → String
  | .notStarted => "NotStarted"
  | .running => "Running"
  | .stopped => "Stopped"

/-- The place of a state in the life of a server. -/
def ServerState.rank : ServerState → Nat
  | .notStarted => 0
  | .running => 1
  | .stopped => 2

/-- The state by name. -/
def Lifecycle.state : Lifecycle → ServerState
  | .notStarted => .notStarted
  | .running _ => .running
  | .stopped => .stopped

/-- A server: a checked configuration and how far it has come. -/
structure Server where
  config : ServerConfig
  lifecycle : Lifecycle

namespace Server

/-- A server that was not started. -/
def ofConfig (c : ServerConfig) : Server := ⟨c, .notStarted⟩

/-- The state by name. -/
def state (s : Server) : ServerState := s.lifecycle.state

/-- The bound addresses; none unless running. -/
def addresses (s : Server) : List Net.SocketAddress :=
  match s.lifecycle with
  | .running listeners => listeners.addresses
  | _ => []

/-- Opens every listener. -/
def start (m : Net.Machine) (s : Server) : Except ServerError Unit × Server × Net.Machine :=
  match s.lifecycle with
  | .running _ => (.error (.lifecycle .alreadyRunning), s, m)
  | .stopped => (.error (.lifecycle .alreadyStopped), s, m)
  | .notStarted =>
    match ListenerSet.start m s.config with
    | (.error e, m) => (.error e, s, m)
    | (.ok listeners, m) => (.ok (), { s with lifecycle := .running listeners }, m)

/-- Closes every listener; does nothing unless running. -/
def stop (m : Net.Machine) (s : Server) : Except ServerError Unit × Server × Net.Machine :=
  match s.lifecycle with
  | .running listeners =>
    let (result, m) := listeners.stop m
    (result, { s with lifecycle := .stopped }, m)
  | _ => (.ok (), s, m)

/-- The diagnostic rendering. -/
def debug (s : Server) : String :=
  Text.record "Portico" [("config", s.config.debug), ("state", s.state.text)]

@[simp] theorem state_ofConfig (c : ServerConfig) : (ofConfig c).state = .notStarted := rfl

end Server

end Gatehouse
