import Gatehouse.Config.Security
import Gatehouse.Net.Address

namespace Gatehouse.Config

/-!
# Listeners

A listening socket: protocol, host, port, and TLS material for HTTPS.

* `Protocol` — what a listener speaks;
* `ListenerDraft.build` — the rules a single listener has to satisfy;
* `Listener.address` — the address to bind.
-/

/-- What a listener speaks. -/
inductive Protocol where
  | http
  | https
  | ajp
  deriving DecidableEq, Repr, Inhabited

/-- The name of a protocol. -/
def Protocol.text : Protocol → String
  | .http => "HTTP"
  | .https => "HTTPS"
  | .ajp => "AJP"

/-- The name of a protocol in diagnostic renderings. -/
def Protocol.debug : Protocol → String
  | .http => "Http"
  | .https => "Https"
  | .ajp => "Ajp"

/-- A listening socket. -/
structure Listener where
  protocol : Protocol
  host : String
  port : Nat
  security : Option Security
  deriving DecidableEq, Repr, Inhabited

/-- The listener that a description without fields stands for. -/
def Listener.standard : Listener := ⟨.http, "0.0.0.0", 8080, none⟩

/-- What is wrong with a listener. -/
inductive ListenerFault where
  | blankHost
  | securityMissing
  | securityUnexpected (protocol : Protocol)
  | codecMissing
  deriving DecidableEq, Repr

/-- The wording of a listener fault. -/
def ListenerFault.message : ListenerFault → String
  | .blankHost => "host is empty"
  | .securityMissing => "HTTPS listeners require a security config"
  | .securityUnexpected protocol => protocol.text ++ " listeners do not take a security config"
  | .codecMissing => "no codec registered for AJP listeners"

/-- A listener fault as an error of the server. -/
def ListenerFault.error (f : ListenerFault) : ServerError := .config (.listener f.message)

namespace Listener

/-- Checks a listener: a host that is not blank, and TLS material exactly for HTTPS. -/
def check (l : Listener) : Except ListenerFault Listener :=
  if Text.isBlankText l.host then .error .blankHost
  else match l.protocol, l.security with
    | .https, none => .error .securityMissing
    | .https, some _ => .ok l
    | _, none => .ok l
    | protocol, some _ => .error (.securityUnexpected protocol)

/-- The diagnostic rendering. -/
def debug (l : Listener) : String :=
  Text.record "ListenerConfig"
    [("protocol", l.protocol.debug),
     ("host", Text.quote l.host),
     ("port", toString l.port),
     ("security", Text.optional (l.security.map Security.debug))]

/-- Host and port as they were given. -/
def place (l : Listener) : String := l.host ++ ":" ++ toString l.port

/-- Why the host of a listener stands for no address. -/
inductive HostFault where
  | nul
  | lookup (reason : String)
  | noAddress
  deriving DecidableEq, Repr

/-- The wording of a host fault. -/
def HostFault.message : HostFault → String
  | .nul => "file name contained an unexpected NUL byte"
  | .lookup reason => reason
  | .noAddress => "no address found"

/-- The addresses of a host: itself, if it is an address in text form, or those under its name. -/
def lookUp (names : Net.Names) (host : String) : Except HostFault (List Net.IpAddress) :=
  match Net.IpAddress.parse? host with
  | some ip => .ok [ip]
  | none =>
    if host.toList.contains '\x00' then .error .nul
    else (names host).mapError .lookup

/-- Of several addresses, the first one of four octets, or else the first one. -/
def prefer (ips : List Net.IpAddress) : Except HostFault Net.IpAddress :=
  match ips.find? (·.isV4), ips with
  | some ip, _ => .ok ip
  | none, ip :: _ => .ok ip
  | none, [] => .error .noAddress

/-- The address to bind, given what is known about names. -/
def address (l : Listener) (names : Net.Names := Net.localNames) :
    Except ServerError Net.SocketAddress :=
  match (lookUp names l.host).bind prefer with
  | .ok ip => .ok ⟨ip, l.port⟩
  | .error fault => .error (.bind (l.place ++ ": " ++ fault.message))

end Listener

/-- A listener that was not checked yet. -/
structure ListenerDraft where
  protocol : Protocol
  host : String
  port : Nat
  security : Option SecurityDraft
  deriving DecidableEq, Repr, Inhabited

/-- Builds the TLS material, then checks the listener. -/
def ListenerDraft.build (files : FileTree) (d : ListenerDraft) : Except ServerError Listener := do
  let security ← (d.security.mapM (SecurityDraft.build files)).mapError SecurityFault.error
  (Listener.check ⟨d.protocol, d.host, d.port, security⟩).mapError ListenerFault.error

end Gatehouse.Config
