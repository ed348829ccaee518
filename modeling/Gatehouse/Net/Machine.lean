import Gatehouse.Net.Address

namespace Gatehouse.Net

/-!
# The machine

What the server asks of the machine it runs on: listening sockets, threads, addresses by name, and
word that its accept loops have ended. Requests are numbered, and the machine may refuse any of
them, so that statements about the server hold whichever of its steps fail.

An address stays bound for as long as anybody holds a socket on it: the owner of the socket, or
accept loops that the owner has given up waiting for.

* `Machine`, `Machine.bind`, `Machine.release` — listening sockets; no two of them overlap;
* `Machine.awaitLoops` — gives a socket back that accept loops share;
* `Machine.held`, `Machine.bound` — the sockets that loops still hold, and all that are held;
* `Machine.startThreads`, `Machine.resolve` — the other requests;
* `Machine.isolated` — a machine none of whose interfaces is up.
-/

/-- Why an address cannot be bound. -/
inductive BindFault where
  | inUse
  | notAvailable
  | notAllowed
  deriving DecidableEq, Repr, Inhabited

/-- The wording of a bind fault. -/
def BindFault.message : BindFault → String
  | .inUse => "Address already in use (os error 98)"
  | .notAvailable => "Cannot assign requested address (os error 99)"
  | .notAllowed => "Invalid argument (os error 22)"

/-- A listening socket, known by the number of the request that bound it. -/
structure Socket where
  number : Nat
  address : SocketAddress
  deriving DecidableEq, Repr, Inhabited

/-- A socket that its owner gave back while accept loops went on with it, and the number of the
    request that waited for them in vain. -/
structure Lingering where
  socket : Socket
  wait : Nat
  deriving DecidableEq, Repr, Inhabited

/-- A machine: the listening sockets that have an owner, those that were left to accept loops so
    far, the requests made so far, and what it makes of the n-th: among others whether loops that
    it waits for go on for too long, and the request by which they let go of their socket then. -/
structure Machine where
  sockets : List Socket
  lingering : List Lingering
  requests : Nat
  refuses : Nat → SocketAddress → Option BindFault
  threadFault : Nat → Option String
  names : Nat → Names
  lingers : Nat → Bool
  letGoBy : Nat → Nat
  connected : Bool

namespace Machine

/-- Counts a request. -/
def asked (m : Machine) : Machine := { m with requests := m.requests + 1 }

/-- The sockets that loops which went on still hold. -/
def held (m : Machine) : List Socket :=
  (m.lingering.filter fun l => m.requests < m.letGoBy l.wait).map (·.socket)

/-- The sockets that anybody holds. -/
def bound (m : Machine) : List Socket := m.sockets ++ m.held

/-- Whether a listening socket overlaps an address. -/
def isTaken (m : Machine) (a : SocketAddress) : Bool :=
  m.bound.any fun s => s.address.port == a.port && s.address.ip.overlaps a.ip

/-- The ports given to sockets that ask for none, as the first one and how many there are. -/
def dynamicPorts : Nat × Nat := (49152, 16384)

/-- The first port out of those that no socket on the address uses. -/
def freePort? (m : Machine) (ip : IpAddress) : Option Nat :=
  ((List.range dynamicPorts.2).find? fun i => !m.isTaken ⟨ip, dynamicPorts.1 + i⟩).map
    (dynamicPorts.1 + ·)

/-- The port to bind: the one asked for unless it is taken, and a free one for port 0. -/
def choosePort? (m : Machine) (a : SocketAddress) : Option Nat :=
  if a.port = 0 then m.freePort? a.ip
  else if m.isTaken a then none
  else some a.port

/-- Binds a listening socket. -/
def bind (m : Machine) (a : SocketAddress) : Except BindFault Socket × Machine :=
  match m.refuses m.requests a, m.choosePort? a with
  | some fault, _ => (.error fault, m.asked)
  | none, none => (.error .inUse, m.asked)
  | none, some port =>
    let s : Socket := ⟨m.requests, ⟨a.ip, port⟩⟩
    (.ok s, { m.asked with sockets := m.sockets ++ [s] })

/-- Gives a socket back that nobody else holds. -/
def release (m : Machine) (s : Socket) : Machine :=
  { m with sockets := m.sockets.filter (·.number ≠ s.number) }

/-- Starts threads; gives the reason when the machine refuses. -/
def startThreads (m : Machine) : Option String × Machine := (m.threadFault m.requests, m.asked)

/-- Asks for the addresses under names, as they are known at present. -/
def resolve (m : Machine) : Names × Machine := (m.names m.requests, m.asked)

/-- Gives a socket back that accept loops share, and waits for them to end; gives whether they did
    in time. If not, they go on holding the socket. -/
def awaitLoops (m : Machine) (s : Socket) : Bool × Machine :=
  let after := (m.release s).asked
  if m.lingers m.requests then
    (false, { after with lingering := m.lingering ++ [⟨s, m.requests⟩] })
  else (true, after)

/-- Whether an address could be bound. -/
def canBind (m : Machine) (a : SocketAddress) : Bool :=
  match (m.bind a).1 with
  | .ok _ => true
  | .error _ => false

/-- Whether a client that connects to an address is answered. -/
def reaches (m : Machine) (a : SocketAddress) : Bool := m.connected && m.isTaken a

/-! ### A machine on its own -/

/-- Which addresses can be bound while no interface is up: all of four octets, and of eight groups
    the one that stands for every address. -/
def isolatedRefusal (ip : IpAddress) : Option BindFault :=
  match ip.unmapped with
  | .v4 _ => none
  | .v6 groups =>
    let first := groups.headD 0
    if ip == IpAddress.anyV6 then none
    else if 0xFF00 ≤ first || first / 64 == 0xFE80 / 64 then some .notAllowed
    else some .notAvailable

/-- A machine none of whose interfaces is up: sockets can be bound, but nobody connects. -/
def isolated : Machine where
  sockets := []
  lingering := []
  requests := 0
  refuses _ a := isolatedRefusal a.ip
  threadFault _ := none
  names _ := localNames
  lingers _ := false
  letGoBy _ := 0
  connected := false

end Machine

end Gatehouse.Net
