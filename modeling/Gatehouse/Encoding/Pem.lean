import Gatehouse.Encoding.Base64

namespace Gatehouse.Pem

/-!
# Armoured text

A block of bytes in base64 between a line that begins it and one that ends it. Text between blocks
does not count. The two readers differ in what they take for such lines.

* `firstBlock` — the first block of a text with some label, for certificates forwarded as text;
* `blocks` — the blocks of a file with known labels, for the TLS material of a listener.
-/

/-- How a line that begins a block starts. -/
def beginMark : List Char := "-----BEGIN ".toList

/-- How a line that ends a block starts. -/
def endMark : List Char := "-----END ".toList

/-- The dashes behind a label. -/
def dashes : List Char := "-----".toList

/-- The text in front of the first occurrence of some characters. -/
def before? (word : List Char) : List Char → Option (List Char)
  | [] => if word.isEmpty then some [] else none
  | c :: cs =>
    if word.isPrefixOf (c :: cs) then some [] else (before? word cs).map (c :: ·)

/-! ### The first block of a text -/

/-- What is wrong with the blocks of a text. -/
inductive Fault where
  | header
  | incomplete
  | base64
  | noBlock
  deriving DecidableEq, Repr

/-- The wording of a fault. -/
def Fault.message : Fault → String
  | .header => "invalid header"
  | .incomplete => "incomplete PEM"
  | .base64 => "base64 decode error"
  | .noBlock => "no certificate in PEM input"

/-- The label of a line that begins a block; it ends in front of a dash. -/
def label? (line : List Char) : Option (List Char) :=
  (before? dashes (line.drop beginMark.length)).map fun l => l.takeWhile (· != '-')

/-- The bytes of the first block with a label, read line by line. The state is the block being read:
    its label and its text so far. A line that ends a block ends any. -/
def firstBlockFrom (wanted : List Char) :
    Option (List Char × List Char) → List (List Char) → Except Fault Bytes
  | none, [] => .error .noBlock
  | some _, [] => .error .incomplete
  | none, line :: rest =>
    if beginMark.isPrefixOf line then
      match label? line with
      | some label => firstBlockFrom wanted (some (label, [])) rest
      | none => .error .header
    else firstBlockFrom wanted none rest
  | some (label, text), line :: rest =>
    if endMark.isPrefixOf line then
      match Base64.decodePadded? (Utf8.encode text) with
      | none => .error .base64
      | some bytes => if label = wanted then .ok bytes else firstBlockFrom wanted none rest
    else firstBlockFrom wanted (some (label, text ++ Text.trimEnd line)) rest

/-- The bytes of the first block of a text with a label. -/
def firstBlock (wanted : String) (text : List Char) : Except Fault Bytes :=
  firstBlockFrom wanted.toList none (Text.splitAll '\n' text)

/-! ### The blocks of a file -/

/-- The labels that mean something in a file. -/
inductive Label where
  | certificate
  | publicKey
  | rsaKey
  | privateKey
  | ecKey
  | revocationList
  | certificateRequest
  | echConfig
  deriving DecidableEq, Repr

/-- The spelling of a label. -/
def Label.text : Label → String
  | .certificate => "CERTIFICATE"
  | .publicKey => "PUBLIC KEY"
  | .rsaKey => "RSA PRIVATE KEY"
  | .privateKey => "PRIVATE KEY"
  | .ecKey => "EC PRIVATE KEY"
  | .revocationList => "X509 CRL"
  | .certificateRequest => "CERTIFICATE REQUEST"
  | .echConfig => "ECHCONFIG"

/-- All labels. -/
def Label.all : List Label :=
  [.certificate, .publicKey, .rsaKey, .privateKey, .ecKey, .revocationList, .certificateRequest,
    .echConfig]

/-- The label with a spelling. -/
def Label.ofBytes? (bs : Bytes) : Option Label := Label.all.find? fun l => Utf8.bytes l.text == bs

/-- A block of a file. -/
structure Block where
  label : Label
  content : Bytes
  deriving DecidableEq, Repr

/-- What is wrong with the blocks of a file. -/
inductive FileFault where
  | sectionStart
  | sectionEnd
  | base64
  deriving DecidableEq, Repr

/-- The wording of a fault. -/
def FileFault.message : FileFault → String
  | .sectionStart => "illegal section start"
  | .sectionEnd => "section end missing"
  | .base64 => "base64 decode error"

/-- Line feed and carriage return. -/
def isLineEnd (b : UInt8) : Bool := b == 10 || b == 13

/-- The lines of a file, each without its end; both ends end a line by themselves. -/
def fileLines : Bytes → List Bytes
  | [] => [[]]
  | b :: rest =>
    if isLineEnd b then [] :: fileLines rest
    else match fileLines rest with
      | [] => [[b]]
      | line :: lines => (b :: line) :: lines

/-- The label of a line that begins a block: five dashes end the line, spaces aside. -/
def sectionLabel? (line : Bytes) : Option Bytes :=
  let body := line.drop beginMark.length
  let tail := body.reverse.takeWhile fun b => b == 45 || b == 32
  if tail.count 45 = 5 then
    some (body.take (body.length - (tail.reverse.dropWhile (· == 32)).length))
  else none

/-- Whether a line ends the block with a label. -/
def endsSection (label line : Bytes) : Bool :=
  (Utf8.encode endMark ++ label ++ Utf8.encode dashes).isPrefixOf line

/-- Bytes that do not count inside a block. -/
def isFiller (b : UInt8) : Bool := b == 9 || b == 10 || b == 11 || b == 12 || b == 13 || b == 32

/-- The blocks of a file in front of its first fault, and that fault. -/
structure Blocks where
  found : List Block
  fault : Option FileFault
  deriving DecidableEq, Repr

/-- Puts a block in front. -/
def Blocks.cons (b : Block) (bs : Blocks) : Blocks := { bs with found := b :: bs.found }

/-- The blocks of a file, read line by line. The state is the block being read: its label and its
    text so far, which another beginning does not drop. -/
def blocksFrom : Option (Bytes × Bytes) → List Bytes → Blocks
  | none, [] => ⟨[], none⟩
  | some _, [] => ⟨[], some .sectionEnd⟩
  | state, line :: rest =>
    if (Utf8.encode beginMark).isPrefixOf line then
      match sectionLabel? line with
      | some label => blocksFrom (some (label, (state.map (·.2)).getD [])) rest
      | none => ⟨[], some .sectionStart⟩
    else match state with
      | none => blocksFrom none rest
      | some (label, text) =>
        if endsSection label line then
          match Label.ofBytes? label with
          | none => blocksFrom none rest
          | some l =>
            match Base64.decodePadded? text with
            | none => ⟨[], some .base64⟩
            | some content => (blocksFrom none rest).cons ⟨l, content⟩
        else blocksFrom (some (label, text ++ line.filter fun b => !isFiller b)) rest

/-- The blocks of a file. -/
def blocks (bs : Bytes) : Blocks := blocksFrom none (fileLines bs)

end Gatehouse.Pem
