namespace Gatehouse.Number

/-!
# Decimal numbers as written

* `Decimal` — sign, digits and power of ten;
* `Decimal.parse?` — reads `digits`, `digits.digits` and an optional exponent, with at least one
  digit in front of the exponent.
-/

/-- The number `± digits · 10 ^ exponent`. -/
structure Decimal where
  negative : Bool
  digits : Nat
  exponent : Int
  deriving DecidableEq, Repr, Inhabited

/-- The number that digits stand for. -/
def digitsValue (cs : List Char) : Nat := cs.foldl (fun n c => n * 10 + (c.toNat - 48)) 0

namespace Decimal

/-- Reads an exponent, marker included. -/
def exponent? : List Char → Option Int
  | [] => some 0
  | m :: cs =>
    if m != 'e' && m != 'E' then none
    else
      let (negative, ds) := match cs with
        | '-' :: ds => (true, ds)
        | '+' :: ds => (false, ds)
        | ds => (false, ds)
      if ds.isEmpty || !ds.all Char.isDigit then none
      else
        let n : Int := digitsValue ds
        some (if negative then -n else n)

/-- Reads a number without its sign. -/
def unsigned? (negative : Bool) (cs : List Char) : Option Decimal :=
  let whole := cs.takeWhile Char.isDigit
  let rest := cs.dropWhile Char.isDigit
  let (part, rest) := match rest with
    | '.' :: more => (more.takeWhile Char.isDigit, more.dropWhile Char.isDigit)
    | _ => ([], rest)
  if whole.isEmpty && part.isEmpty then none
  else (exponent? rest).map fun e =>
    ⟨negative, digitsValue (whole ++ part), e - (part.length : Int)⟩

/-- Reads a number. -/
def parse? : List Char → Option Decimal
  | '-' :: cs => unsigned? true cs
  | '+' :: cs => unsigned? false cs
  | cs => unsigned? false cs

/-- The number of digits, leading zeros aside. -/
def size (d : Decimal) : Nat := (Nat.toDigits 10 d.digits).length

end Decimal

end Gatehouse.Number
