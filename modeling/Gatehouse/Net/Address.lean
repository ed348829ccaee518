import Gatehouse.Text.Blank
import Gatehouse.Text.Quoted

namespace Gatehouse.Net

/-!
# Addresses

Internet addresses as numbers, with their text forms.

* `IpAddress`, `IpAddress.parse?`, `IpAddress.text` — four octets, or eight groups of which the
  longest run of zeros is written `::`;
* `IpAddress.overlaps` — addresses that cannot both be bound on one port;
* `SocketAddress`, `SocketAddress.text` — an address with a port;
* `Names`, `localNames` — addresses by name.
-/

/-- An internet address: four octets or eight groups of sixteen bits. -/
inductive IpAddress where
  | v4 (octets : List Nat)
  | v6 (groups : List Nat)
  deriving DecidableEq, Repr, Inhabited

/-- An address and a port. -/
structure SocketAddress where
  ip : IpAddress
  port : Nat
  deriving DecidableEq, Repr, Inhabited

namespace IpAddress

/-! ### Reading -/

/-- The value of a digit of a radix up to 16. -/
def digit? (radix : Nat) (c : Char) : Option Nat :=
  let n := if c.isDigit then c.toNat - 48
    else if 'a' ≤ c ∧ c ≤ 'f' then c.toNat - 87
    else if 'A' ≤ c ∧ c ≤ 'F' then c.toNat - 55
    else 16
  if n < radix then some n else none

/-- Reads all digits at the front. -/
def digits (radix : Nat) : List Char → List Nat × List Char
  | [] => ([], [])
  | c :: cs =>
    match digit? radix c with
    | some d => let (ds, rest) := digits radix cs; (d :: ds, rest)
    | none => ([], c :: cs)

/-- The number that digits stand for. -/
def value (radix : Nat) (ds : List Nat) : Nat := ds.foldl (fun n d => n * radix + d) 0

/-- Reads one octet: up to three digits, none of them a leading zero. -/
def octet? (cs : List Char) : Option (Nat × List Char) :=
  let (ds, rest) := digits 10 cs
  let n := value 10 ds
  if ds.isEmpty || ds.length > 3 || n > 255 || (ds.head? == some 0 && ds.length > 1) then none
  else some (n, rest)

/-- Reads one group: up to four hexadecimal digits. -/
def group? (cs : List Char) : Option (Nat × List Char) :=
  let (ds, rest) := digits 16 cs
  if ds.isEmpty || ds.length > 4 then none else some (value 16 ds, rest)

/-- Takes a character off the front. -/
def expect? (c : Char) (cs : List Char) : Option (List Char) :=
  if cs.head? = some c then some cs.tail else none

/-- Reads four octets with points in between. -/
def octets? (cs : List Char) : Option (List Nat × List Char) := do
  let (a, cs) ← octet? cs
  let (b, cs) ← octet? (← expect? '.' cs)
  let (c, cs) ← octet? (← expect? '.' cs)
  let (d, cs) ← octet? (← expect? '.' cs)
  return ([a, b, c, d], cs)

/-- Takes the colon in front of every group but the first. -/
def separated? (first : Bool) (cs : List Char) : Option (List Char) :=
  if first then some cs else expect? ':' cs

/-- Reads at most `limit` groups, of which the last two may be written as four octets. The flag
    tells whether they were. -/
def groups (first : Bool) : Nat → List Char → List Nat × Bool × List Char
  | 0, cs => ([], false, cs)
  | limit + 1, cs =>
    let embedded := if limit = 0 then none else (separated? first cs).bind octets?
    match embedded with
    | some (a :: b :: c :: d :: _, rest) => ([a * 256 + b, c * 256 + d], true, rest)
    | _ =>
      match (separated? first cs).bind group? with
      | some (g, rest) =>
        let (gs, mixed, rest) := groups false limit rest
        (g :: gs, mixed, rest)
      | none => ([], false, cs)

/-- Reads eight groups, a run of which may be left out as `::`. -/
def sixteen? (cs : List Char) : Option (List Nat) := do
  let (front, mixed, rest) := groups true 8 cs
  if front.length = 8 then
    if rest.isEmpty then return front else none
  if mixed then none
  let rest ← expect? ':' (← expect? ':' rest)
  let (back, _, rest) := groups true (7 - front.length) rest
  if !rest.isEmpty then none
  return front ++ List.replicate (8 - front.length - back.length) 0 ++ back

/-- Reads an address. -/
def parse? (text : String) : Option IpAddress :=
  match octets? text.toList with
  | some (octets, []) => some (.v4 octets)
  | _ => (sixteen? text.toList).map .v6

/-! ### Writing -/

/-- Octets with points in between. -/
def octetsText (octets : List Nat) : String := ".".intercalate (octets.map toString)

/-- Groups with colons in between. -/
def groupsText (groups : List Nat) : String := ":".intercalate (groups.map Text.hexDigits)

/-- The zeros at the front. -/
def leadingZeros (groups : List Nat) : Nat := (groups.takeWhile (· == 0)).length

/-- Start and length of the longest run of zeros, the first of several. -/
def longestRun (groups : List Nat) : Nat × Nat :=
  (List.range groups.length).foldl (fun best i =>
    let n := leadingZeros (groups.drop i)
    if best.2 < n then (i, n) else best) (0, 0)

/-- Eight groups: an embedded address of four octets is shown as such, and the longest run of at
    least two zeros is left out. -/
def sixteenText (groups : List Nat) : String :=
  match groups with
  | [0, 0, 0, 0, 0, 0xFFFF, hi, lo] =>
    "::ffff:" ++ octetsText [hi / 256, hi % 256, lo / 256, lo % 256]
  | _ =>
    let (start, n) := longestRun groups
    if n > 1 then groupsText (groups.take start) ++ "::" ++ groupsText (groups.drop (start + n))
    else groupsText groups

/-- The text of an address. -/
def text : IpAddress → String
  | .v4 octets => octetsText octets
  | .v6 groups => sixteenText groups

/-- Whether the address has four octets. -/
def isV4 : IpAddress → Bool
  | .v4 _ => true
  | .v6 _ => false

/-- The loopback address of four octets. -/
def loopback : IpAddress := .v4 [127, 0, 0, 1]

/-! ### Comparing -/

/-- The address of four octets that eight groups may stand for. -/
def unmapped : IpAddress → IpAddress
  | .v6 [0, 0, 0, 0, 0, 0xFFFF, hi, lo] => .v4 [hi / 256, hi % 256, lo / 256, lo % 256]
  | ip => ip

/-- The address of eight groups that stands for every address. -/
def anyV6 : IpAddress := .v6 [0, 0, 0, 0, 0, 0, 0, 0]

/-- The address of four octets that stands for every address of four octets. -/
def anyV4 : IpAddress := .v4 [0, 0, 0, 0]

/-- Whether the first address takes in the second. -/
def covers (a b : IpAddress) : Bool :=
  a == b || a == anyV6 || (a == anyV4 && b.isV4)

/-- Whether two addresses have an address in common. -/
def overlaps (a b : IpAddress) : Bool :=
  a.unmapped.covers b.unmapped || b.unmapped.covers a.unmapped

end IpAddress

/-- The text of an address with a port; groups stand in brackets. -/
def SocketAddress.text (a : SocketAddress) : String :=
  match a.ip with
  | .v4 _ => a.ip.text ++ ":" ++ toString a.port
  | .v6 _ => "[" ++ a.ip.text ++ "]:" ++ toString a.port

/-- Reads an address with a port; groups stand in brackets. -/
def SocketAddress.parse? (text : String) : Option SocketAddress := do
  let (host, port) ← Text.splitLast ':' text.toList
  let ds ← port.mapM (IpAddress.digit? 10)
  let n := IpAddress.value 10 ds
  if ds.isEmpty || 65535 < n then none
  match host with
  | '[' :: inside =>
    if inside.getLast? = some ']' then
      (IpAddress.sixteen? inside.dropLast).map fun groups => ⟨.v6 groups, n⟩
    else none
  | _ =>
    match IpAddress.octets? host with
    | some (octets, []) => some ⟨.v4 octets, n⟩
    | _ => none

/-! ### Names -/

/-- The addresses under each name, or why there are none. -/
abbrev Names := String → Except String (List IpAddress)

/-- The names that are known without asking anyone. -/
def localNames : Names := fun name =>
  if name == "localhost" then .ok [.loopback]
  else .error "failed to lookup address information: Name or service not known"

end Gatehouse.Net
