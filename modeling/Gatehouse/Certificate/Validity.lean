import Gatehouse.Encoding.Der
import Gatehouse.Time.Calendar

namespace Gatehouse.Certificate

/-!
# Times of certificates

* `utcTime?` — `YYMMDDhhmm[ss]` with `Z` or a distance from universal time;
* `generalizedTime?` — `YYYYMMDDhhmm[ss][.f]Z` with up to three digits of a fraction;
* `readTime?` — a time in either form.
-/

/-- The value of a digit. -/
def digit? (b : UInt8) : Option Nat := if 48 ≤ b ∧ b ≤ 57 then some (b.toNat - 48) else none

/-- Reads a number of two digits. -/
def twoDigits? : Bytes → Option (Nat × Bytes)
  | a :: b :: rest => do return ((← digit? a) * 10 + (← digit? b), rest)
  | _ => none

/-- Reads seconds; they may be left out. -/
def seconds (bs : Bytes) : Nat × Bytes := (twoDigits? bs).getD (0, bs)

/-- Whether a time exists. -/
def isTime (t : Timestamp) : Bool :=
  Calendar.isDate t.year t.month t.day && t.hour ≤ 23 && t.minute ≤ 59 && t.second ≤ 59

/-- The hours of a distance from universal time are at most these. -/
def maxOffsetHours : Nat := 25

/-- A distance from universal time in minutes. The sign belongs to the hours. -/
def offset? (bs : Bytes) : Option Int := do
  match bs with
  | [90] => return 0
  | sign :: rest =>
    if sign ≠ 43 ∧ sign ≠ 45 then failure
    let (hours, rest) ← twoDigits? rest
    let (minutes, rest) ← twoDigits? rest
    if !rest.isEmpty || maxOffsetHours < hours || 59 < minutes then failure
    let total : Int := ((hours * 60 + minutes : Nat) : Int)
    return if sign = 45 ∧ hours ≠ 0 then -total else total
  | [] => failure

/-- Years from this one on belong to the last century. -/
def firstYear : Nat := 50

/-- A time with a year of two digits. -/
def utcTime? (bs : Bytes) : Option Timestamp := do
  let (year, bs) ← twoDigits? bs
  let (month, bs) ← twoDigits? bs
  let (day, bs) ← twoDigits? bs
  let (hour, bs) ← twoDigits? bs
  let (minute, bs) ← twoDigits? bs
  let (second, bs) := seconds bs
  let offset ← offset? bs
  let year := if firstYear ≤ year then 1900 + year else 2000 + year
  let t : Timestamp := ⟨year, month, day, hour, minute, second, 0, offset⟩
  if isTime t then return t else failure

/-- The most digits of a fraction. -/
def maxFraction : Nat := 3

/-- Reads a fraction of a second, point included, in thousandths. It may be left out. -/
def fraction? (bs : Bytes) : Option (Nat × Bytes) :=
  match bs with
  | 46 :: rest =>
    let ds := (rest.takeWhile fun b => (digit? b).isSome).filterMap digit?
    if maxFraction < ds.length then none
    else some ((ds ++ List.replicate (maxFraction - ds.length) 0).foldl (fun n d => n * 10 + d) 0,
      rest.drop ds.length)
  | _ => some (0, bs)

/-- A time with a year of four digits. -/
def generalizedTime? (bs : Bytes) : Option Timestamp := do
  let (century, bs) ← twoDigits? bs
  let (year, bs) ← twoDigits? bs
  let (month, bs) ← twoDigits? bs
  let (day, bs) ← twoDigits? bs
  let (hour, bs) ← twoDigits? bs
  let (minute, bs) ← twoDigits? bs
  let (second, bs) := seconds bs
  let (milli, bs) ← fraction? bs
  if bs ≠ [90] then failure
  let t : Timestamp := ⟨century * 100 + year, month, day, hour, minute, second, milli, 0⟩
  if isTime t then return t else failure

/-- Reads a time. -/
def readTime? (bs : Bytes) : Option (Timestamp × Bytes) := do
  let (e, rest) ← (Der.readElement bs).toOption
  let t ←
    if e.header.number = Der.utcTime then utcTime? e.content
    else if e.header.number = Der.generalizedTime then generalizedTime? e.content
    else none
  return (t, rest)

end Gatehouse.Certificate
