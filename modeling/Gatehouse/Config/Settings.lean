import Gatehouse.Config.Server

namespace Gatehouse.Config

/-!
# Settings

The part of a configuration that can be kept in a file. Applied to a draft, explicit sizes win over
the sizes that follow from a memory budget, and listeners are added behind those already there.

* `Settings`, `ListenerSettings`, `SecuritySettings` — the values of a settings file;
* `Settings.applySizes` — the sizes and counts of a draft afterwards;
* `Settings.apply` — sizes and listeners; a listener that cannot be built ends it, and the
  listeners in front of it stay.
-/

/-- TLS material of a listener, by file. -/
structure SecuritySettings where
  cert : String
  key : String
  caCert : Option String
  clientAuth : ClientAuth
  deriving DecidableEq, Repr, Inhabited

/-- A listener. -/
structure ListenerSettings where
  protocol : Protocol
  host : String
  port : Nat
  security : Option SecuritySettings
  deriving DecidableEq, Repr, Inhabited

/-- The values of a settings file; those left out change nothing. -/
structure Settings where
  maxMemory : Option Nat
  bufferSize : Option Nat
  perRegion : Option Nat
  ioThreads : Option Nat
  workerThreads : Option Nat
  direct : Option Bool
  listeners : List ListenerSettings
  deriving DecidableEq, Repr, Inhabited

/-- The material of a listener, to be loaded. -/
def SecuritySettings.draft (s : SecuritySettings) : SecurityDraft :=
  ⟨.file s.cert, .file s.key, s.caCert.map .file, s.clientAuth⟩

/-- The listener, to be checked. -/
def ListenerSettings.draft (l : ListenerSettings) : ListenerDraft :=
  ⟨l.protocol, l.host, l.port, l.security.map SecuritySettings.draft⟩

namespace Settings

/-- Settings without any value. -/
def empty : Settings := ⟨none, none, none, none, none, none, []⟩

/-- Applies an edit if there is a value for it. -/
def edit {α : Type} (set : ServerDraft → α → ServerDraft) (value : Option α) (d : ServerDraft) :
    ServerDraft :=
  match value with
  | some a => set d a
  | none => d

/-- Applies sizes and counts, the memory budget first. -/
def applySizes (s : Settings) (d : ServerDraft) : ServerDraft :=
  d |> edit .withMemory s.maxMemory
    |> edit .setBufferSize s.bufferSize
    |> edit .setPerRegion s.perRegion
    |> edit .setIoThreads s.ioThreads
    |> edit .setWorkerThreads s.workerThreads
    |> edit .setDirect s.direct

/-- Adds listeners until one cannot be built. -/
def addListeners (files : FileTree) :
    List ListenerSettings → ServerDraft → ServerDraft × Except ServerError Unit
  | [], d => (d, .ok ())
  | l :: rest, d =>
    match l.draft.build files with
    | .error e => (d, .error e)
    | .ok listener => addListeners files rest (d.addListener listener)

/-- Applies settings to a draft. -/
def apply (files : FileTree) (s : Settings) (d : ServerDraft) :
    ServerDraft × Except ServerError Unit :=
  addListeners files s.listeners (s.applySizes d)

end Settings

end Gatehouse.Config
