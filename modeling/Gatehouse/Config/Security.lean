import Gatehouse.Error
import Gatehouse.Storage

namespace Gatehouse.Config

/-!
# TLS material

Certificate, key and client authority of a TLS listener, given as bytes or by file.

* `SecurityDraft`, `SecurityDraft.build` — loads files and checks the material;
* `Security` — the checked material; its diagnostic rendering does not show the key.
-/

/-- Whether clients are asked for a certificate. -/
inductive ClientAuth where
  | notRequested
  | requested
  | required
  deriving DecidableEq, Repr, Inhabited

/-- The name of the setting in diagnostic renderings. -/
def ClientAuth.debug : ClientAuth → String
  | .notRequested => "NotRequested"
  | .requested => "Requested"
  | .required => "Required"

/-- Where material comes from. -/
inductive Material where
  | bytes (content : Bytes)
  | file (path : String)
  deriving DecidableEq, Repr, Inhabited

/-- What is wrong with TLS material. -/
inductive SecurityFault where
  | unreadable (what path : String) (fault : FileFault)
  | emptyCertificate
  | emptyKey
  | missingAuthority
  deriving DecidableEq, Repr

/-- The wording of a security fault. -/
def SecurityFault.message : SecurityFault → String
  | .unreadable what path fault => "Cannot read " ++ what ++ " " ++ path ++ ": " ++ fault.message
  | .emptyCertificate => "Certificate is empty"
  | .emptyKey => "Private key is empty"
  | .missingAuthority => "Client authentication requires a CA certificate"

/-- A security fault as an error of the server. -/
def SecurityFault.error (f : SecurityFault) : ServerError := .config (.security f.message)

/-- Loads material. -/
def Material.load (files : FileTree) (what : String) : Material → Except SecurityFault Bytes
  | .bytes content => .ok content
  | .file path => (files.read path).mapError (.unreadable what path)

/-- TLS material that was not checked yet. -/
structure SecurityDraft where
  cert : Material
  key : Material
  ca : Option Material
  clientAuth : ClientAuth
  deriving DecidableEq, Repr, Inhabited

/-- Checked TLS material. -/
structure Security where
  cert : Bytes
  key : Bytes
  ca : Option Bytes
  clientAuth : ClientAuth
  deriving DecidableEq, Repr, Inhabited

/-- Loads the files, then checks that certificate and key hold something and that clients are
    asked for certificates only with an authority to verify them. -/
def SecurityDraft.build (files : FileTree) (d : SecurityDraft) : Except SecurityFault Security := do
  let cert ← d.cert.load files "certificate"
  let key ← d.key.load files "private key"
  let ca ← d.ca.mapM (Material.load files "CA certificate")
  if cert.isEmpty then throw .emptyCertificate
  if key.isEmpty then throw .emptyKey
  if d.clientAuth ≠ .notRequested ∧ ca.isNone then throw .missingAuthority
  return ⟨cert, key, ca, d.clientAuth⟩

/-- The diagnostic rendering. -/
def Security.debug (s : Security) : String :=
  Text.record "SecurityConfig"
    [("cert", toString s.cert.length ++ " bytes"),
     ("key", Text.quote "<redacted>"),
     ("ca_cert", Text.truth s.ca.isSome),
     ("client_auth", s.clientAuth.debug)]

end Gatehouse.Config
