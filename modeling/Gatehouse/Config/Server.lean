import Gatehouse.Buffer.Profile
import Gatehouse.Config.Listener
import Gatehouse.Routing.Dispatch

namespace Gatehouse.Config

/-!
# Server configuration

A draft collects sizes, thread counts, listeners, virtual hosts and codecs. Nothing is checked
until the draft is built, and then everything is.

* `ServerDraft` with its edits; `ServerDraft.build` — the checks, in order;
* `ServerConfig` — a checked configuration, and its diagnostic rendering.
-/

/-- A draft of a server configuration, and after `build` a checked one. -/
structure ServerConfig where
  bufferSize : Nat
  perRegion : Nat
  ioThreads : Nat
  workerThreads : Nat
  direct : Bool
  listeners : List Listener
  hosts : Routing.Registry
  codecs : List Protocol

/-- A configuration that was not checked yet. -/
structure ServerDraft where
  config : ServerConfig

/-- What is wrong with sizes and thread counts. -/
inductive SizeFault where
  | notPositive (what : String)
  | noListener
  deriving DecidableEq, Repr

/-- The wording of a size fault. -/
def SizeFault.message : SizeFault → String
  | .notPositive what => what ++ " must be positive"
  | .noListener => "at least one listener is required"

/-- A size fault as an error of the server. -/
def SizeFault.error (f : SizeFault) : ServerError := .config (.validation f.message)

namespace ServerConfig

/-- Whether a codec is registered for a protocol. -/
def hasCodec (c : ServerConfig) (p : Protocol) : Bool := c.codecs.contains p

/-- The sizes and counts that have to be positive, in the order they are checked. -/
def positives (c : ServerConfig) : List (String × Nat) :=
  [("buffer size", c.bufferSize), ("buffers per region", c.perRegion),
   ("io threads", c.ioThreads), ("worker threads", c.workerThreads)]

/-- Checks one size or count. -/
def checkPositive (p : String × Nat) : Except SizeFault Unit :=
  if p.2 = 0 then .error (.notPositive p.1) else .ok ()

/-- Checks sizes, counts, and that there is a listener. -/
def checkSizes (c : ServerConfig) : Except SizeFault Unit := do
  c.positives.forM checkPositive
  if c.listeners.isEmpty then throw .noListener

/-- Checks that one listener can be served. -/
def checkListener (c : ServerConfig) (l : Listener) : Except ListenerFault Unit :=
  if Text.isBlankText l.host then .error .blankHost
  else if l.protocol = .ajp ∧ !c.hasCodec .ajp then .error .codecMissing
  else .ok ()

/-- All checks, in order. -/
def check (c : ServerConfig) : Except ServerError Unit := do
  c.checkSizes.mapError SizeFault.error
  (c.listeners.forM c.checkListener).mapError ListenerFault.error
  c.hosts.check.mapError (·.error)

/-- The codecs that are registered, in the order of the protocols. -/
def codecList (c : ServerConfig) : List Protocol :=
  [Protocol.http, .https, .ajp].filter c.hasCodec

/-- The diagnostic rendering. -/
def debug (c : ServerConfig) : String :=
  Text.record "ServerConfig"
    [("buffer_size", toString c.bufferSize),
     ("buffers_per_region", toString c.perRegion),
     ("io_threads", toString c.ioThreads),
     ("worker_threads", toString c.workerThreads),
     ("direct_buffers", Text.truth c.direct),
     ("listeners", Text.list (c.listeners.map Listener.debug)),
     ("hosts", c.hosts.debug),
     ("codecs", Text.list (c.codecList.map Protocol.debug))]

end ServerConfig

namespace ServerDraft

/-- Worker threads for each I/O thread, unless set otherwise. -/
def workersPerIo : Nat := 8

/-- An untouched draft for a machine: buffers follow its memory, I/O threads its parallelism. -/
def forMachine (memory parallelism : Nat) : ServerDraft :=
  let profile := Buffer.Profile.ofMemory memory
  ⟨⟨profile.bufferSize, profile.perRegion, parallelism, parallelism * workersPerIo,
    profile.direct, [], .start, []⟩⟩

/-- Takes the buffer sizes of a memory budget. -/
def withMemory (d : ServerDraft) (budget : Nat) : ServerDraft :=
  let profile := Buffer.Profile.ofMemory budget
  ⟨{ d.config with
      bufferSize := profile.bufferSize
      perRegion := profile.perRegion
      direct := profile.direct }⟩

def setBufferSize (d : ServerDraft) (n : Nat) : ServerDraft := ⟨{ d.config with bufferSize := n }⟩
def setPerRegion (d : ServerDraft) (n : Nat) : ServerDraft := ⟨{ d.config with perRegion := n }⟩
def setIoThreads (d : ServerDraft) (n : Nat) : ServerDraft := ⟨{ d.config with ioThreads := n }⟩

def setWorkerThreads (d : ServerDraft) (n : Nat) : ServerDraft :=
  ⟨{ d.config with workerThreads := n }⟩

def setDirect (d : ServerDraft) (b : Bool) : ServerDraft := ⟨{ d.config with direct := b }⟩

/-- Adds a listener as it is. -/
def addListener (d : ServerDraft) (l : Listener) : ServerDraft :=
  ⟨{ d.config with listeners := d.config.listeners ++ [l] }⟩

/-- Registers a codec for a protocol. -/
def addCodec (d : ServerDraft) (p : Protocol) : ServerDraft :=
  ⟨{ d.config with codecs := if d.config.hasCodec p then d.config.codecs
      else d.config.codecs ++ [p] }⟩

/-- Appends a virtual host. -/
def addHost (d : ServerDraft) (h : Routing.VirtualHost) : ServerDraft :=
  ⟨{ d.config with hosts := d.config.hosts.push h }⟩

/-- Edits the default host. -/
def editDefaultHost (d : ServerDraft) (edit : Routing.VirtualHost → Routing.VirtualHost) :
    ServerDraft :=
  ⟨{ d.config with hosts := d.config.hosts.editFirst edit }⟩

/-- Checks the draft. -/
def build (d : ServerDraft) : Except ServerError ServerConfig := do
  d.config.check
  return d.config

/-- A built configuration is the one that was drafted, and it passes the checks. -/
theorem build_eq_ok {d : ServerDraft} {c : ServerConfig} (h : d.build = .ok c) :
    c = d.config ∧ d.config.check = .ok () := by
  unfold build at h
  cases hc : d.config.check with
  | error e => rw [hc] at h; cases h
  | ok u => rw [hc] at h; cases h; exact ⟨rfl, rfl⟩

/-- A built configuration has a listener. -/
theorem listeners_ne_nil {d : ServerDraft} {c : ServerConfig} (h : d.build = .ok c) :
    c.listeners ≠ [] := by
  obtain ⟨rfl, hcheck⟩ := build_eq_ok h
  intro hnone
  unfold ServerConfig.check ServerConfig.checkSizes at hcheck
  rw [hnone] at hcheck
  cases hsizes : d.config.positives.forM ServerConfig.checkPositive with
  | error fault => rw [hsizes] at hcheck; cases hcheck
  | ok u => rw [hsizes] at hcheck; cases hcheck

end ServerDraft

end Gatehouse.Config
