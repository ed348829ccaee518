import Gatehouse.Certificate.Reader
import Gatehouse.Net.Address

namespace Gatehouse

/-!
# TLS sessions

* `Session` — id, cipher suite and the peer's certificate, if it presented one;
* `Session.ofText`, `Session.ofEncoded`, `Session.ofDer` — sessions from what a proxy forwards or a
  handshake gives;
* `Session.certificates` — the views of the peer's certificates;
* `Connection` — where a request came from, and its session on a TLS listener.
-/

/-- A TLS session. -/
structure Session where
  id : Bytes
  cipherSuite : String
  peerCertificate : Option Certificate
  deriving DecidableEq, Repr, Inhabited

namespace Session

/-- A session with the given certificate, if any; one that cannot be read makes no session. -/
def withCertificate {α : Type} (read : α → Except CertificateFault Certificate) (id : Bytes)
    (cipherSuite : String) (certificate : Option α) : Except SslFault Session := do
  let peer ← (certificate.mapM read).mapError .certificate
  return ⟨id, cipherSuite, peer⟩

/-- A session with a certificate in text form. -/
def ofText : Bytes → String → Option (List Char) → Except SslFault Session :=
  withCertificate Certificate.ofText

/-- A session with an encoded certificate. -/
def ofDer : Bytes → String → Option Bytes → Except SslFault Session :=
  withCertificate Certificate.ofDer

/-- A session whose id is in base64; the id is read first. -/
def ofEncoded (id : List Char) (cipherSuite : String) (certificate : Option (List Char)) :
    Except SslFault Session := do
  let bytes ← (Base64.decodeText id).mapError fun f => .sessionId f.message
  ofText bytes cipherSuite certificate

/-- The peer's certificates: exactly one, or the peer is not verified. -/
def certificates (s : Session) : Except SslFault (List Certificate) :=
  match s.peerCertificate with
  | some c => .ok [c]
  | none => .error .peerUnverified

/-- The general view of the peer's certificates: type and encoded form. -/
def encodedCertificates (s : Session) : Except SslFault (List (String × Bytes)) :=
  s.certificates.map fun cs => cs.map fun c => (Certificate.type, c.der)

/-- The diagnostic rendering of bytes. -/
def bytesDebug (bs : Bytes) : String := Text.list (bs.map fun b => toString b.toNat)

/-- The diagnostic rendering of a certificate. -/
def certificateDebug (c : Certificate) : String :=
  Text.record "X509Certificate"
    [("der", bytesDebug c.der), ("subject", Text.quote c.subject),
     ("issuer", Text.quote c.issuer), ("serial", Text.quote c.serial),
     ("not_before", c.notBefore.debug), ("not_after", c.notAfter.debug)]

/-- The diagnostic rendering. -/
def debug (s : Session) : String :=
  Text.record "SslSessionInfo"
    [("session_id", bytesDebug s.id), ("cipher_suite", Text.quote s.cipherSuite),
     ("peer_certificate", Text.optional (s.peerCertificate.map certificateDebug))]

end Session

/-- The connection that a request arrived on. -/
structure Connection where
  peer : Net.SocketAddress
  session : Option Session
  deriving DecidableEq, Repr, Inhabited

end Gatehouse
