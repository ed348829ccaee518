import Gatehouse.Certificate.Basic
import Gatehouse.Certificate.Name
import Gatehouse.Certificate.Validity
import Gatehouse.Encoding.Pem
import Gatehouse.Error

namespace Gatehouse.Certificate

/-!
# Reading certificates

* `Contents`, `readContents` — the parts of an encoded certificate;
* `ofDer` — a certificate from its encoded form, which is kept as it is;
* `ofText` — a certificate from armoured text, or from base64 alone.
-/

/-! ### Faults -/

/-- The parts of a certificate. -/
inductive Part where
  | version
  | serial
  | algorithm
  | date
  | publicKey
  | issuerId
  | subjectId
  | extensions
  | signature
  deriving DecidableEq, Repr

/-- What a malformed part is called. -/
def Part.fault : Part → String
  | .version => "InvalidVersion"
  | .serial => "InvalidSerial"
  | .algorithm => "InvalidAlgorithmIdentifier"
  | .date => "InvalidDate"
  | .publicKey => "InvalidSPKI"
  | .issuerId => "InvalidIssuerUID"
  | .subjectId => "InvalidSubjectUID"
  | .extensions => "InvalidExtensions"
  | .signature => "InvalidSignatureValue"

/-- Why an encoded certificate cannot be read. -/
inductive ReadFault where
  | incomplete (missing : Nat)
  | element (fault : Der.Fault)
  | part (p : Part)
  | trailing
  deriving DecidableEq, Repr

/-- The wording of a fault. -/
def ReadFault.message : ReadFault → String
  | .incomplete missing => "Parsing requires " ++ toString missing ++ " bytes/chars"
  | .element fault => "Parsing Error: Der(" ++ fault.debug ++ ")"
  | .part p => "Parsing Error: " ++ p.fault
  | .trailing => "Parsing Error: NomError(Eof)"

/-- A fault of an element that belongs to no part. -/
def ReadFault.ofElement : Der.Fault → ReadFault
  | .incomplete missing => .incomplete missing
  | fault => .element fault

/-- Names faults after the element they are in. -/
def plain {α : Type} (r : Except Der.Fault α) : Except ReadFault α := r.mapError .ofElement

/-- Names faults after the part they are in. -/
def inPart {α : Type} (p : Part) (r : Except Der.Fault α) : Except ReadFault α :=
  r.mapError fun _ => .part p

/-! ### Parts -/

/-- The most bytes of a version, a sign byte aside. -/
def maxVersionBytes : Nat := 4

/-- The version in a content: a small number that is not negative. -/
def version? (content : Bytes) : Option Nat :=
  match content with
  | [] => none
  | b :: _ =>
    if 128 ≤ b.toNat || maxVersionBytes < (content.dropWhile (· == 0)).length then none
    else some (Der.number content)

/-- Reads the version. A certificate that names none has the first one, which is zero. -/
def readVersion (bs : Bytes) : Except ReadFault (Nat × Bytes) := do
  let (header, inner) ← inPart .version (Der.readHeader bs)
  if header.number ≠ 0 then return (0, bs)
  let (content, rest) ← inPart .version (Der.readAs Der.integer inner)
  match version? content with
  | some v => return (v, rest)
  | none => throw (.part .version)

/-- Reads an algorithm: its type, and parameters of any kind. -/
def readAlgorithm (bs : Bytes) : Except ReadFault (Bytes × Bytes) := do
  let (content, rest) ← plain (Der.readAs Der.sequence bs)
  let _ ← inPart .algorithm (Der.readAs Der.objectIdentifier content)
  return (content, rest)

/-- Reads a name. -/
def readName (bs : Bytes) : Except ReadFault (Name × Bytes) := do
  let (content, rest) ← plain (Der.readAs Der.sequence bs)
  return (Name.ofContent content, rest)

/-- Reads a time. -/
def readDate (bs : Bytes) : Except ReadFault (Timestamp × Bytes) :=
  match readTime? bs with
  | some r => .ok r
  | none => .error (.part .date)

/-- Reads both ends of the validity. -/
def readValidity (bs : Bytes) : Except ReadFault ((Timestamp × Timestamp) × Bytes) := do
  let (content, rest) ← plain (Der.readAs Der.sequence bs)
  let (notBefore, content) ← readDate content
  let (notAfter, _) ← readDate content
  return ((notBefore, notAfter), rest)

/-- A public key: its algorithm and its bits. -/
structure PublicKey where
  algorithm : Bytes
  bits : Bytes
  deriving DecidableEq, Repr, Inhabited

/-- Reads a public key. -/
def readPublicKey (bs : Bytes) : Except ReadFault (PublicKey × Bytes) := do
  let (content, rest) ← plain (Der.readAs Der.sequence bs)
  let (algorithm, content) ← readAlgorithm content
  let (bits, _) ← inPart .publicKey (Der.readBits content)
  return (⟨algorithm, bits⟩, rest)

/-- The family of tags whose meaning depends on where they stand. -/
def contextFamily : Nat := 2

/-- Skips a unique identifier with the given tag, if there is one. -/
def skipUniqueId (tag : Nat) (p : Part) (bs : Bytes) : Except ReadFault Bytes := do
  if bs.isEmpty then return bs
  let (header, _) ← inPart p (Der.readHeader bs)
  if header.family ≠ contextFamily ∨ header.number ≠ tag then return bs
  let (e, rest) ← inPart p (Der.readElement bs)
  if e.header.constructed then throw (.part p)
  let _ ← inPart p (Der.checkBits e.content)
  return rest

/-- Skips the mark of an important extension, if there is one. -/
def skipFlag (bs : Bytes) : Bytes :=
  match Der.readElement bs with
  | .ok (e, rest) => if e.header.number = Der.boolean ∧ e.content.length = 1 then rest else bs
  | .error _ => bs

/-- Reads an extension; its contents do not matter. -/
def readExtension (bs : Bytes) : Except Der.Fault (Unit × Bytes) := do
  let (content, rest) ← Der.readAs Der.sequence bs
  let (_, content) ← Der.readAs Der.objectIdentifier content
  let _ ← Der.readAs Der.octetString (skipFlag content)
  return ((), rest)

/-- The tag of the extensions. -/
def extensionsTag : Nat := 3

/-- Checks the extensions, behind which nothing may follow. -/
def checkExtensions (bs : Bytes) : Except ReadFault Unit := do
  if bs.isEmpty then return
  let (header, inner) ← inPart .extensions (Der.readHeader bs)
  if header.number ≠ extensionsTag then throw (.part .extensions)
  let (content, rest) ← plain (Der.readAs Der.sequence inner)
  if !(readMany readExtension content.length content).2.isEmpty || !rest.isEmpty then
    throw .trailing

/-! ### Certificates -/

/-- The parts of a certificate that matter. -/
structure Contents where
  version : Nat
  serial : Bytes
  issuer : Name
  notBefore : Timestamp
  notAfter : Timestamp
  subject : Name
  publicKey : PublicKey
  deriving DecidableEq, Repr

/-- Reads what the issuer signed. -/
def readSigned (bs : Bytes) : Except ReadFault (Contents × Bytes) := do
  let (content, rest) ← plain (Der.readAs Der.sequence bs)
  let (version, content) ← readVersion content
  let (serial, content) ← inPart .serial (Der.readAs Der.integer content)
  let (_, content) ← readAlgorithm content
  let (issuer, content) ← readName content
  let ((notBefore, notAfter), content) ← readValidity content
  let (subject, content) ← readName content
  let (publicKey, content) ← readPublicKey content
  let content ← skipUniqueId 1 .issuerId content
  let content ← skipUniqueId 2 .subjectId content
  checkExtensions content
  return (⟨version, serial, issuer, notBefore, notAfter, subject, publicKey⟩, rest)

/-- Reads an encoded certificate. Bytes behind it do not count. -/
def readContents (der : Bytes) : Except ReadFault Contents := do
  let (content, _) ← plain (Der.readAs Der.sequence der)
  let (signed, content) ← readSigned content
  let (_, content) ← readAlgorithm content
  let _ ← inPart .signature (Der.readBits content)
  return signed

/-- The bytes of a serial number with colons in between. -/
def serialText (serial : Bytes) : String :=
  ":".intercalate (serial.map fun b => String.ofList (hexByte false b))

/-- The certificate with the given parts. -/
def Contents.certificate (c : Contents) (der : Bytes) : Certificate :=
  ⟨der, c.subject.text, c.issuer.text, serialText c.serial, c.notBefore, c.notAfter⟩

/-- A certificate from its encoded form. -/
def ofDer (der : Bytes) : Except CertificateFault Certificate :=
  match readContents der with
  | .ok c => .ok (c.certificate der)
  | .error f => .error (.x509 f.message)

/-! ### Texts -/

/-- The label of armoured certificates. -/
def armourLabel : String := "CERTIFICATE"

/-- Whether a text has armour anywhere. -/
def hasArmour (text : List Char) : Bool := (Pem.before? "-----BEGIN".toList text).isSome

/-- The encoded form in a text. -/
def decodeText (text : List Char) : Except CertificateFault Bytes :=
  let text := Text.trim text
  if text.isEmpty then .error (.encoding "empty certificate")
  else if hasArmour text then
    (Pem.firstBlock armourLabel text).mapError fun f => .encoding f.message
  else (Base64.decodeText text).mapError fun f => .encoding f.message

/-- A certificate from a text. -/
def ofText (text : List Char) : Except CertificateFault Certificate := do
  ofDer (← decodeText text)

end Gatehouse.Certificate
