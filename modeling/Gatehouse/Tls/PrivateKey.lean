import Gatehouse.Encoding.Canonical
import Gatehouse.Encoding.Pem

namespace Gatehouse.Tls

/-!
# Private keys

* `PrivateKey`, `PrivateKey.ofDer?`, `PrivateKey.ofBlock?` — an encoded key and the form it has;
* `RsaNumbers` — the numbers of an RSA key; `Curve` — the curves of other keys;
* `PrivateKey.publicHalf?` — the public half of a key that can be used;
* `PublicHalf.fits` — whether the public key of a certificate may be this half.
-/

/-- The forms of private keys: RSA numbers, an elliptic curve key, or either in an envelope that
    names the algorithm. -/
inductive KeyForm where
  | rsa
  | curve
  | envelope
  deriving DecidableEq, Repr

/-- An encoded private key. -/
structure PrivateKey where
  form : KeyForm
  der : Bytes
  deriving DecidableEq, Repr

namespace PrivateKey

/-! ### Forms -/

/-- How many bytes the head of a sequence takes. -/
def headLength (length : UInt8) : Nat := if length.toNat < 128 then 2 else 2 + (length.toNat - 128)

/-- The form that the first bytes inside the outer sequence tell. -/
def formOf? : Bytes → Option KeyForm
  | 2 :: 1 :: version :: tag :: _ =>
    if tag = 48 then some .envelope
    else if version = 0 ∧ tag = 2 then some .rsa
    else if version = 1 ∧ tag = 4 then some .curve
    else none
  | _ => none

/-- A key without armour. -/
def ofDer? (der : Bytes) : Option PrivateKey :=
  match der with
  | 48 :: length :: _ => (formOf? (der.drop (headLength length))).map (⟨·, der⟩)
  | _ => none

/-- A key in an armoured block. -/
def ofBlock? (b : Pem.Block) : Option PrivateKey :=
  match b.label with
  | .rsaKey => some ⟨.rsa, b.content⟩
  | .ecKey => some ⟨.curve, b.content⟩
  | .privateKey => some ⟨.envelope, b.content⟩
  | _ => none

/-! ### Numbers -/

/-- Reads a number that is not negative. -/
def readNatural? (bs : Bytes) : Option (Nat × Bytes) := do
  let (content, rest) ← Der.read? .integer bs
  if Der.isNatural content then some (Der.number content, rest) else none

/-- Reads numbers with nothing behind them. -/
def readNaturals? : Nat → Bytes → Option (List Nat)
  | 0, bs => if bs.isEmpty then some [] else none
  | n + 1, bs => do
    let (number, rest) ← readNatural? bs
    let numbers ← readNaturals? n rest
    return number :: numbers

/-- The fewest bits of a modulus. -/
def minModulusBits : Nat := 2048

/-- The numbers of an RSA key. -/
structure RsaNumbers where
  modulus : Nat
  exponent : Nat
  secret : Nat
  p : Nat
  q : Nat
  secretP : Nat
  secretQ : Nat
  inverse : Nat
  deriving DecidableEq, Repr

/-- Whether the numbers belong together and the modulus is large enough. -/
def RsaNumbers.isValid (n : RsaNumbers) : Bool :=
  Nat.pow 2 (minModulusBits - 1) ≤ n.modulus && 1 < n.p && 1 < n.q &&
    n.modulus = n.p * n.q &&
    n.secret * n.exponent % (n.p - 1) = 1 && n.secret * n.exponent % (n.q - 1) = 1 &&
    n.secretP = n.secret % (n.p - 1) && n.secretQ = n.secret % (n.q - 1) &&
    n.inverse * n.q % n.p = 1

/-- Reads the numbers of an RSA key, which has version 0. -/
def readRsa? (der : Bytes) : Option RsaNumbers := do
  match ← readNaturals? 9 (← Der.readWhole? .sequence der) with
  | [0, modulus, exponent, secret, p, q, secretP, secretQ, inverse] =>
    let numbers := RsaNumbers.mk modulus exponent secret p q secretP secretQ inverse
    if numbers.isValid then some numbers else none
  | _ => none

/-! ### Public halves -/

/-- The public half of a key, which may be known only by its algorithm. -/
structure PublicHalf where
  algorithm : Bytes
  bits : Option Bytes
  deriving DecidableEq, Repr

/-- Whether a public key as a certificate holds it may be this half. -/
def PublicHalf.fits (h : PublicHalf) (publicKey : Bytes) : Bool :=
  let algorithm := Der.write .sequence h.algorithm
  match h.bits with
  | some bits => publicKey == algorithm ++ Der.write .bitString (0 :: bits)
  | none => algorithm.isPrefixOf publicKey

/-- The RSA algorithm. -/
def rsaAlgorithm : Bytes :=
  Der.write .objectIdentifier [42, 134, 72, 134, 247, 13, 1, 1, 1] ++ [5, 0]

/-- The algorithm whose keys are a seed. -/
def seedAlgorithm : Bytes := Der.write .objectIdentifier [43, 101, 112]

/-- How long a seed is. -/
def seedLength : Nat := 32

/-- The curves that keys may be on. -/
inductive Curve where
  | p256
  | p384
  | p521
  deriving DecidableEq, Repr

namespace Curve

/-- All curves. -/
def all : List Curve := [.p256, .p384, .p521]

/-- The element that names a curve. -/
def name : Curve → Bytes
  | .p256 => Der.write .objectIdentifier [42, 134, 72, 206, 61, 3, 1, 7]
  | .p384 => Der.write .objectIdentifier [43, 129, 4, 0, 34]
  | .p521 => Der.write .objectIdentifier [43, 129, 4, 0, 35]

/-- How many bytes a number modulo the order of a curve takes. -/
def width : Curve → Nat
  | .p256 => 32
  | .p384 => 48
  | .p521 => 66

/-- The algorithm of keys on a curve. -/
def algorithm (c : Curve) : Bytes :=
  Der.write .objectIdentifier [42, 134, 72, 206, 61, 2, 1] ++ c.name

end Curve

/-- The public half of an RSA key. -/
def rsaHalf? (der : Bytes) : Option PublicHalf := do
  let numbers ← readRsa? der
  let bits := Der.write .sequence (Der.writeNatural numbers.modulus ++
    Der.writeNatural numbers.exponent)
  return ⟨rsaAlgorithm, some bits⟩

/-- Reads the part with a number, if it stands in front. -/
def readPart? (n : Nat) (bs : Bytes) : Option (Option Bytes × Bytes) :=
  if bs.head? ≠ some (Der.Kind.part n).byte then some (none, bs)
  else (Der.read? (.part n) bs).map fun (content, rest) => (some content, rest)

/-- The bits of a whole bit string without unused ones. -/
def wholeBits? (bs : Bytes) : Option Bytes :=
  match Der.readWhole? .bitString bs with
  | some (0 :: bits) => some bits
  | _ => none

/-- The curve of a key, which an envelope and the key itself may name. Where neither does, the
    length of the secret number tells. -/
def chooseCurve? (outer : Option Curve) (inner : Option Bytes) (secret : Bytes) : Option Curve :=
  match outer, inner with
  | some c, none => some c
  | some c, some name => if name = c.name then some c else none
  | none, some name => Curve.all.find? fun c => c.name == name
  | none, none => Curve.all.find? fun c => c.width = secret.length

/-- The public half of a key on a curve, which an envelope may name. -/
def curveHalf? (outer : Option Curve) (der : Bytes) : Option PublicHalf := do
  let (version, content) ← readNatural? (← Der.readWhole? .sequence der)
  let (secret, content) ← Der.read? .octetString content
  let (name, content) ← readPart? 0 content
  let (point, content) ← readPart? 1 content
  let curve ← chooseCurve? outer name secret
  if version = 1 && content.isEmpty then
    match point with
    | none => some ⟨curve.algorithm, none⟩
    | some point => (wholeBits? point).map fun bits => ⟨curve.algorithm, some bits⟩
  else none

/-- The public half of a key in an envelope, which has version 0 or 1. -/
def envelopeHalf? (der : Bytes) : Option PublicHalf := do
  let (version, content) ← readNatural? (← Der.readWhole? .sequence der)
  let (algorithm, content) ← Der.read? .sequence content
  let (key, _) ← Der.read? .octetString content
  if 1 < version then none
  if algorithm = rsaAlgorithm then rsaHalf? key
  else if algorithm = seedAlgorithm then
    let seed ← Der.readWhole? .octetString key
    if seed.length = seedLength then some ⟨seedAlgorithm, none⟩ else none
  else curveHalf? (← Curve.all.find? (·.algorithm == algorithm)) key

/-- The public half of a key, if the key is one that can be used. -/
def publicHalf? (k : PrivateKey) : Option PublicHalf :=
  match k.form with
  | .rsa => rsaHalf? k.der
  | .curve => curveHalf? none k.der
  | .envelope => envelopeHalf? k.der

end PrivateKey

end Gatehouse.Tls
