import Gatehouse.Number.Decimal

namespace Gatehouse.Number

/-!
# Numbers of 53 binary digits

* `Binary64` — a number of the form `± m · 2 ^ e` with `m` below `2 ^ 53`;
* `Binary64.ofDecimal?` — the nearest one to a decimal number, the even one of two as near;
* `Binary64.shortest` — the fewest digits that read back as the number, and of those the nearest,
  the greater one of two as near;
* `Binary64.text` — these digits in positional notation, always with a point.
-/

/-- The number `± mantissa · 2 ^ exponent`. -/
structure Binary64 where
  negative : Bool
  mantissa : Nat
  exponent : Int
  deriving DecidableEq, Repr, Inhabited

namespace Binary64

/-- The least exponent. -/
def minExponent : Int := -1074

/-- The greatest exponent. -/
def maxExponent : Int := 971

/-- A power of a base with an exponent cut off at zero. -/
def power (base : Nat) (e : Int) : Nat := Nat.pow base e.toNat

/-- The quotient rounded to the nearest number, to the even one of two as near. -/
def roundDiv (num den : Nat) : Nat :=
  let q := num / den
  let r := num % den
  if 2 * r < den then q else if den < 2 * r then q + 1 else if q % 2 = 0 then q else q + 1

/-- The exponent at which a quotient has 53 binary digits in front of the point, or the least. -/
def exponentFor (num den : Nat) : Int :=
  let e := max ((Nat.log2 num : Int) - Nat.log2 den - 53) minExponent
  if Nat.pow 2 53 ≤ num * power 2 (-e) / (den * power 2 e) then e + 1 else e

/-- The nearest number to a quotient; `none` beyond the greatest. -/
def ofQuotient? (negative : Bool) (num den : Nat) : Option Binary64 :=
  let e := exponentFor num den
  let m := roundDiv (num * power 2 (-e)) (den * power 2 e)
  let (m, e) := if m = Nat.pow 2 53 then (Nat.pow 2 52, e + 1) else (m, e)
  if maxExponent < e then none else some ⟨negative, m, e⟩

/-- Beyond this power of ten every number is too great. -/
def maxTens : Int := 310

/-- Below this power of ten every number is nearest to zero. -/
def minTens : Int := -330

/-- The nearest number to a decimal number; `none` beyond the greatest. -/
def ofDecimal? (d : Decimal) : Option Binary64 :=
  let tens := d.exponent + d.size
  if d.digits = 0 ∨ tens < minTens then some ⟨d.negative, 0, minExponent⟩
  else if maxTens < tens then none
  else ofQuotient? d.negative (d.digits * power 10 d.exponent) (power 10 (-d.exponent))

/-! ### Shortest digits -/

/-- The reals that round to a number, as multiples of `1 / unit`: both ends, the number itself, and
    whether the ends belong to them. -/
structure Interval where
  low : Nat
  value : Nat
  high : Nat
  unit : Nat
  closed : Bool
  deriving Repr

/-- The interval of a number that is not zero. Below a power of two the numbers lie closer. -/
def interval (b : Binary64) : Interval :=
  let scale := power 2 (b.exponent - 2)
  let gap := if b.mantissa = Nat.pow 2 52 ∧ minExponent < b.exponent then 1 else 2
  ⟨(4 * b.mantissa - gap) * scale, 4 * b.mantissa * scale, (4 * b.mantissa + 2) * scale,
    power 2 (2 - b.exponent), b.mantissa % 2 = 0⟩

namespace Interval

/-- Whether `c · 10 ^ k` lies in the interval. -/
def holds (i : Interval) (c : Nat) (k : Int) : Bool :=
  let x := c * power 10 k * i.unit
  let s := power 10 (-k)
  if i.closed then i.low * s ≤ x && x ≤ i.high * s else i.low * s < x && x < i.high * s

/-- How far `c · 10 ^ k` is from the number, in a unit that depends on `k` only. -/
def distance (i : Interval) (c : Nat) (k : Int) : Nat :=
  let x := c * power 10 k * i.unit
  let v := i.value * power 10 (-k)
  (x - v) + (v - x)

/-- The power of ten of the first digit, searched downwards for numbers below one. -/
def leadingTens (i : Interval) : Int :=
  if i.unit ≤ i.value then ((Nat.toDigits 10 (i.value / i.unit)).length : Int) - 1
  else
    let steps := (List.range 400).takeWhile fun j => i.value * Nat.pow 10 j < i.unit
    Int.negOfNat steps.length

/-- The best number with `n` digits, if one lies in the interval. -/
def best? (i : Interval) (n : Nat) : Option (Nat × Int) :=
  let k := i.leadingTens - n + 1
  let c := i.value * power 10 (-k) / (i.unit * power 10 k)
  match i.holds c k, i.holds (c + 1) k with
  | true, true => some (if i.distance (c + 1) k ≤ i.distance c k then c + 1 else c, k)
  | true, false => some (c, k)
  | false, true => some (c + 1, k)
  | false, false => none

end Interval

/-- Drops zeros at the end of some digits, at most `fuel` of them. -/
def dropZeros : Nat → Nat → Int → Nat × Int
  | 0, c, k => (c, k)
  | fuel + 1, c, k => if c % 10 = 0 ∧ c ≠ 0 then dropZeros fuel (c / 10) (k + 1) else (c, k)

/-- The fewest digits that read back as the number, with the power of ten of the last one. -/
def shortest (b : Binary64) : Nat × Int :=
  if b.mantissa = 0 then (0, 0)
  else
    let i := b.interval
    let (c, k) := ((List.range 17).findSome? fun n => i.best? (n + 1)).getD (0, 0)
    dropZeros 18 c k

/-- Digits in positional notation. A whole number has a zero behind the point. -/
def positional (digits : List Char) (k : Int) : List Char :=
  if 0 ≤ k then digits ++ List.replicate k.toNat '0' ++ ['.', '0']
  else
    let places := (-k).toNat
    let padded := List.replicate (places + 1 - digits.length) '0' ++ digits
    padded.take (padded.length - places) ++ ['.'] ++ padded.drop (padded.length - places)

/-- The number in positional notation. -/
def text (b : Binary64) : String :=
  let (c, k) := b.shortest
  (if b.negative then "-" else "") ++ String.ofList (positional (Nat.toDigits 10 c) k)

end Binary64

end Gatehouse.Number
