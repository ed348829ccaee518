import Gatehouse.Config.Security
import Gatehouse.Tls.Acceptance
import Gatehouse.Tls.PrivateKey

namespace Gatehouse.Tls

/-!
# TLS on a listener

* `loadCertificates`, `loadKey` — the material of a listener, armoured or not;
* `Setup`, `Setup.ofSecurity` — what connections of a listener negotiate with.
-/

/-- Why TLS cannot be set up. -/
inductive TlsFault where
  | certificateText (reason : String)
  | noCertificate
  | keyText (reason : String)
  | noKey
  | missingAuthority
  | authority (reason : Rejection)
  | certificate (reason : Rejection)
  | key
  | keyMismatch
  deriving DecidableEq, Repr

/-- The wording of a fault. -/
def TlsFault.message : TlsFault → String
  | .certificateText reason => "Failed to parse certificate: " ++ reason
  | .noCertificate => "No certificate found in PEM input"
  | .keyText reason => "Failed to parse private key: " ++ reason
  | .noKey => "No private key found in PEM input"
  | .missingAuthority => "client authentication requires a CA certificate"
  | .authority reason => "Invalid CA certificate: invalid peer certificate: " ++ reason.message
  | .certificate reason => "invalid peer certificate: " ++ reason.message
  | .key => "unexpected error: failed to parse private key as RSA, ECDSA, or EdDSA"
  | .keyMismatch => "keys may not be consistent: KeyMismatch"

/-- A fault as an error of the server. -/
def TlsFault.error (f : TlsFault) : ServerError := .start (.tls f.message)

/-! ### Material -/

/-- ASCII white space among bytes. -/
def isBlankByte (b : UInt8) : Bool := b == 9 || b == 10 || b == 12 || b == 13 || b == 32

/-- Whether a file begins with armour, white space aside. -/
def isArmoured (bs : Bytes) : Bool :=
  (Utf8.bytes "-----BEGIN").isPrefixOf (bs.dropWhile isBlankByte)

/-- The encoded certificates of a file: those in its armoured blocks, or the file itself. -/
def loadCertificates (bs : Bytes) : Except TlsFault (List Bytes) :=
  if !isArmoured bs then .ok [bs]
  else
    let b := Pem.blocks bs
    let found := (b.found.filter (·.label = .certificate)).map (·.content)
    match b.fault with
    | some f => .error (.certificateText f.message)
    | none => if found.isEmpty then .error .noCertificate else .ok found

/-- The first key of a file. -/
def loadKey (bs : Bytes) : Except TlsFault PrivateKey :=
  if !isArmoured bs then
    match PrivateKey.ofDer? bs with
    | some k => .ok k
    | none => .error (.keyText "unknown or invalid key format")
  else
    let b := Pem.blocks bs
    match b.found.findSome? PrivateKey.ofBlock?, b.fault with
    | some k, _ => .ok k
    | none, some f => .error (.keyText f.message)
    | none, none => .error .noKey

/-! ### Setup -/

/-- What connections of a listener negotiate with. -/
structure Setup where
  chain : List Bytes
  key : PrivateKey
  authorities : List Bytes
  clientAuth : Config.ClientAuth
  deriving DecidableEq, Repr

/-- The protocols offered during a handshake. -/
def Setup.protocols (_ : Setup) : List String := ["http/1.1"]

/-- The certificates of the authorities that may vouch for clients, if clients are asked at all. -/
def loadAuthorities (s : Config.Security) : Except TlsFault (List Bytes) :=
  match s.clientAuth, s.ca with
  | .notRequested, _ => .ok []
  | _, none => .error .missingAuthority
  | _, some ca => do
    let certificates ← loadCertificates ca
    certificates.forM fun der => (acceptAuthority der).mapError .authority
    return certificates

/-- Checks that the key can be used, that the first certificate is accepted, and that the two
    belong together. -/
def checkPair (chain : List Bytes) (key : PrivateKey) : Except TlsFault Unit :=
  match key.publicHalf?, acceptServer (chain.headD []) with
  | none, _ => .error .key
  | some _, .error r => .error (.certificate r)
  | some half, .ok publicKey => if half.fits publicKey then .ok () else .error .keyMismatch

/-- Sets TLS up: certificates, then the key, then the authorities, then the pair. -/
def Setup.ofSecurity (s : Config.Security) : Except TlsFault Setup := do
  let chain ← loadCertificates s.cert
  let key ← loadKey s.key
  let authorities ← loadAuthorities s
  checkPair chain key
  return ⟨chain, key, authorities, s.clientAuth⟩

end Gatehouse.Tls
