import Gatehouse.Config.Server
import Gatehouse.Server.Service
import Gatehouse.Tls.Setup
import Gatehouse.Worker.Channel

namespace Gatehouse.Server

open Config Worker

/-!
# Listeners

The listeners of a configuration are opened together or not at all.

* `openListener` — one listener: codec, TLS, address, socket, in this order;
* `openAll` — listeners in order, up to the first that cannot be opened;
* `ListenerSet` — open listeners; `ListenerSet.start`, `ListenerSet.stop`;
* `Listeners` — the owner of at most one such set; `Listeners.start`, `Listeners.stop`.
-/

/-- Open listeners, the worker they run on and the handler they serve. -/
structure ListenerSet where
  worker : Worker
  channels : List Channel
  root : Handler

/-! ### One listener -/

/-- Whether there is a codec for a listener: HTTP has one built in. -/
def checkCodec (c : ServerConfig) (protocol : Protocol) : Except ListenerFault Unit :=
  if c.hasCodec protocol || protocol ≠ .ajp then .ok () else .error .codecMissing

/-- Whether connections of a listener can be secured as its protocol wants. -/
def checkTls (l : Listener) : Except ServerError Unit :=
  match l.protocol, l.security with
  | .https, none => .error ListenerFault.securityMissing.error
  | .https, some security =>
    ((Tls.Setup.ofSecurity security).mapError (·.error)).map fun _ => ()
  | _, _ => .ok ()

/-- Whether a listener can be served, its socket aside. -/
def checkServing (c : ServerConfig) (l : Listener) : Except ServerError Unit := do
  (checkCodec c l.protocol).mapError (·.error)
  checkTls l

/-- Finds the address of a listener. -/
def locate (m : Net.Machine) (l : Listener) : Except ServerError Net.SocketAddress × Net.Machine :=
  let (names, m) := m.resolve
  (l.address names, m)

/-- Opens one listener and starts accepting. -/
def openListener (m : Net.Machine) (w : Worker) (c : ServerConfig) (l : Listener) :
    Except ServerError Channel × Net.Machine :=
  match checkServing c l with
  | .error e => (.error e, m)
  | .ok _ =>
    match locate m l with
    | (.error e, m) => (.error e, m)
    | (.ok address, m) =>
      let (listened, m) := Channel.listen m w address (.ofThreads c.ioThreads)
      (listened.map Channel.resume, m)

/-! ### Several listeners -/

/-- Opens listeners in order; gives those opened, and the error of the first that failed. -/
def openAll (m : Net.Machine) (w : Worker) (c : ServerConfig) :
    List Listener → List Channel × Option ServerError × Net.Machine
  | [] => ([], none, m)
  | l :: rest =>
    match openListener m w c l with
    | (.error e, m) => ([], some e, m)
    | (.ok channel, m) =>
      let (channels, failure, m) := openAll m w c rest
      (channel :: channels, failure, m)

/-- Closes channels in order; gives the errors of those that did not close in time, and the channels
    as they are then. -/
def closeAll (m : Net.Machine) : List Channel → List ServerError × List Channel × Net.Machine
  | [] => ([], [], m)
  | channel :: rest =>
    let (result, channel, m) := channel.close m
    let (errors, channels, m) := closeAll m rest
    match result with
    | .ok _ => (errors, channel :: channels, m)
    | .error e => (e :: errors, channel :: channels, m)

/-- The errors of several channels as one result. -/
def joinErrors : List ServerError → Except ServerError Unit
  | [] => .ok ()
  | errors => .error (.stop ("; ".intercalate (errors.map ServerError.message)))

namespace ListenerSet

/-- The bound addresses, in the order of the configuration. -/
def addresses (s : ListenerSet) : List Net.SocketAddress := s.channels.map Channel.address

/-- Opens every listener of a configuration. When one fails, those opened before it are closed
    again. -/
def start (m : Net.Machine) (c : ServerConfig) : Except ServerError ListenerSet × Net.Machine :=
  match Routing.build c.hosts with
  | .error fault => (.error fault.error, m)
  | .ok root =>
    match Worker.create m (.ofThreads c.ioThreads c.workerThreads) with
    | (.error fault, m) => (.error fault.error, m)
    | (.ok worker, m) =>
      match openAll m worker c c.listeners with
      | (channels, some e, m) => (.error e, (closeAll m channels).2.2)
      | (channels, none, m) => (.ok ⟨worker, channels, root⟩, m)

/-- Closes every listener, whichever of them fail to close in time. -/
def stop (m : Net.Machine) (s : ListenerSet) : Except ServerError Unit × Net.Machine :=
  let (errors, _, m) := closeAll m s.channels
  (joinErrors errors, m)

end ListenerSet

/-! ### Their owner -/

/-- The owner of the listeners that are open, if any are. -/
structure Listeners where
  current : Option ListenerSet

namespace Listeners

/-- Nothing is open. -/
def idle : Listeners := ⟨none⟩

/-- Whether listeners are open. -/
def isRunning (s : Listeners) : Bool := s.current.isSome

/-- The bound addresses; none when idle. -/
def addresses (s : Listeners) : List Net.SocketAddress :=
  match s.current with
  | some set => set.addresses
  | none => []

/-- Opens the listeners of a configuration, unless some are open. -/
def start (m : Net.Machine) (c : ServerConfig) (s : Listeners) :
    Except ServerError Unit × Listeners × Net.Machine :=
  match s.current with
  | some _ => (.error (.lifecycle .alreadyRunning), s, m)
  | none =>
    match ListenerSet.start m c with
    | (.error e, m) => (.error e, idle, m)
    | (.ok set, m) => (.ok (), ⟨some set⟩, m)

/-- Closes the listeners that are open. -/
def stop (m : Net.Machine) (s : Listeners) : Except ServerError Unit × Listeners × Net.Machine :=
  match s.current with
  | none => (.ok (), s, m)
  | some set =>
    let (result, m) := set.stop m
    (result, idle, m)

end Listeners

end Gatehouse.Server
