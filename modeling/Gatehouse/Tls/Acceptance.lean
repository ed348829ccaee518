import Gatehouse.Encoding.Canonical

namespace Gatehouse.Tls

/-!
# Certificates that TLS accepts

A certificate that takes part in a handshake has to be in canonical form. It names the algorithm of
its signature twice, alike, and carries no extension that is marked as important and not known.
Names, dates and the signature itself do not matter yet.

* `Rejection` — why a certificate is not accepted;
* `acceptServer` — accepts a certificate of the third version and gives its public key;
* `acceptAuthority` — accepts a certificate that vouches for others, which may be of the first
  version.
-/

/-- Why a certificate is not accepted. -/
inductive Rejection where
  | encoding
  | version
  | algorithms
  | extension
  deriving DecidableEq, Repr

/-- The wording of a rejection. -/
def Rejection.message : Rejection → String
  | .encoding => "BadEncoding"
  | .version => "Other(OtherError(UnsupportedCertVersion))"
  | .algorithms => "Other(OtherError(SignatureAlgorithmMismatch))"
  | .extension => "Other(OtherError(UnsupportedCriticalExtension))"

/-- A part that is missing makes the encoding a bad one. -/
def require {α : Type} (part : Option α) : Except Rejection α :=
  match part with
  | some a => .ok a
  | none => .error .encoding

/-! ### The outer parts -/

/-- What is signed, and with which algorithm. -/
structure Signed where
  content : Bytes
  algorithm : Bytes
  deriving DecidableEq, Repr

/-- Reads the outer parts: content, algorithm and signature. -/
def readSigned? (der : Bytes) : Option Signed := do
  let outer ← Der.readWhole? .sequence der
  let (content, rest) ← Der.read? .sequence outer
  let (algorithm, rest) ← Der.read? .sequence rest
  let signature ← Der.readWhole? .bitString rest
  if signature.head? = some 0 then some ⟨content, algorithm⟩ else none

/-! ### Extensions -/

/-- An extension. -/
structure Extension where
  id : Bytes
  important : Bool
  value : Bytes
  deriving DecidableEq, Repr

/-- Reads a mark, which is off where there is none. -/
def readMark? (bs : Bytes) : Option (Bool × Bytes) :=
  if bs.head? ≠ some Der.Kind.boolean.byte then some (false, bs)
  else
    match Der.read? .boolean bs with
    | some ([255], rest) => some (true, rest)
    | some ([0], rest) => some (false, rest)
    | _ => none

/-- Reads an extension. -/
def readExtension? (bs : Bytes) : Option (Extension × Bytes) := do
  let (content, rest) ← Der.read? .sequence bs
  let (id, content) ← Der.read? .objectIdentifier content
  let (important, content) ← readMark? content
  let value ← Der.readWhole? .octetString content
  return (⟨id, important, value⟩, rest)

/-- Reads at least one extension, and at most `fuel`. -/
def readExtensions? : Nat → Bytes → Option (List Extension)
  | 0, _ => none
  | fuel + 1, bs =>
    match readExtension? bs with
    | none => none
    | some (e, []) => some [e]
    | some (e, rest) => (readExtensions? fuel rest).map (e :: ·)

/-- The usage of the key: the one known extension that is no sequence. -/
def keyUsageId : Bytes := [85, 29, 15]

/-- The extensions that are known: usage of the key, other names, constraints on what the
    certificate vouches for and on names, where revocations are published, and purposes. -/
def knownIds : List Bytes :=
  [keyUsageId, [85, 29, 17], [85, 29, 19], [85, 29, 30], [85, 29, 31], [85, 29, 37]]

/-- Checks an extension behind others. A known one occurs once. -/
def checkExtension (before : List Extension) (e : Extension) : Except Rejection Unit :=
  if e.id ∉ knownIds then if e.important then .error .extension else .ok ()
  else if before.any (·.id == e.id) then .error .encoding
  else if e.id = keyUsageId || (Der.readWhole? .sequence e.value).isSome then .ok ()
  else .error .encoding

/-- Checks extensions in order. -/
def checkExtensions : List Extension → List Extension → Except Rejection Unit
  | _, [] => .ok ()
  | before, e :: rest => do
    checkExtension before e
    checkExtensions (e :: before) rest

/-- Checks what stands behind the public key. -/
def checkRest (bs : Bytes) : Except Rejection Unit :=
  if bs.isEmpty then .ok ()
  else do
    let inner ← require (Der.readWhole? (.part 3) bs)
    let content ← require (Der.readWhole? .sequence inner)
    checkExtensions [] (← require (readExtensions? content.length content))

/-! ### Certificates -/

/-- The version of certificates with extensions. -/
def thirdVersion : Bytes := Der.write .integer [2]

/-- Skips elements. -/
def skip? : List Der.Kind → Bytes → Option Bytes
  | [], bs => some bs
  | k :: ks, bs =>
    match Der.read? k bs with
    | none => none
    | some (_, rest) => skip? ks rest

/-- Accepts a certificate of the third version and gives its public key. -/
def acceptServer (der : Bytes) : Except Rejection Bytes := do
  let signed ← require (readSigned? der)
  match Der.read? (.part 0) signed.content with
  | none => throw .version
  | some (version, content) =>
    if version ≠ thirdVersion then throw .version
    let content ← require (skip? [.integer] content)
    let (algorithm, content) ← require (Der.read? .sequence content)
    if algorithm ≠ signed.algorithm then throw .algorithms
    let content ← require (skip? [.sequence, .sequence, .sequence] content)
    let (publicKey, content) ← require (Der.read? .sequence content)
    checkRest content
    return publicKey

/-- Whether a certificate is of the first version, which is not written. -/
def isFirstVersion (signed : Signed) : Bool :=
  skip? [.integer, .sequence, .sequence, .sequence, .sequence, .sequence] signed.content = some []

/-- Accepts a certificate that vouches for others. -/
def acceptAuthority (der : Bytes) : Except Rejection Unit :=
  match acceptServer der with
  | .ok _ => .ok ()
  | .error .version =>
    match readSigned? der with
    | some signed => if isFirstVersion signed then .ok () else .error .encoding
    | none => .error .encoding
  | .error r => .error r

end Gatehouse.Tls
