import Gatehouse.Number.Binary64
import Gatehouse.Text.Quoted
import Gatehouse.Yaml.Scalar

namespace Gatehouse.Yaml

/-!
# What a scalar means

A plain scalar may stand for nothing, a truth value or a number; quoted ones are texts. A tag can
ask for one of these kinds.

* `Meaning`, `Meaning.ofPlain` — what a plain scalar stands for;
* `unsigned?`, `negative?`, `real?` — the spellings of numbers;
* `Meaning.ofScalar` — what any scalar stands for, or which kind its tag asks for in vain.
-/

/-! ### Words -/

/-- Whether a word stands for nothing. -/
def isNull (text : String) : Bool := ["null", "Null", "NULL", "~"].contains text

/-- The truth value of a word. -/
def truth? (text : String) : Option Bool :=
  if ["true", "True", "TRUE"].contains text then some true
  else if ["false", "False", "FALSE"].contains text then some false
  else none

/-! ### Whole numbers -/

/-- The number that digits stand for in a base up to sixteen. -/
def digitsIn? (base : Nat) (cs : List Char) : Option Nat :=
  let ds := (cs.filterMap hexDigit?).filter (· < base)
  if cs.isEmpty || ds.length ≠ cs.length then none
  else some (ds.foldl (fun n d => n * base + d) 0)

/-- Whether digits have a zero in front, which makes them a text. -/
def isPadded (cs : List Char) : Bool :=
  cs.head? == some '0' && 1 < cs.length && cs.all Char.isDigit

/-- The number that digits stand for, with a base in front or in base ten. -/
def magnitude? (cs : List Char) : Option Nat :=
  match cs with
  | '0' :: 'x' :: ds => digitsIn? 16 ds
  | '0' :: 'o' :: ds => digitsIn? 8 ds
  | '0' :: 'b' :: ds => digitsIn? 2 ds
  | ds => if isPadded ds then none else digitsIn? 10 ds

/-- A text without one plus sign in front. -/
def dropPlus : List Char → List Char
  | '+' :: cs => cs
  | cs => cs

/-- A whole number from zero to a bound. -/
def unsigned? (bound : Nat) (text : String) : Option Nat :=
  (magnitude? (dropPlus text.toList)).filter (· ≤ bound)

/-- A whole number with a minus sign, down to a bound. -/
def negative? (bound : Nat) (text : String) : Option Int :=
  match text.toList with
  | '-' :: cs => ((magnitude? cs).filter (· ≤ bound)).map Int.negOfNat
  | _ => none

/-- The greatest number of 64 binary digits. -/
def maxWord : Nat := Nat.pow 2 64 - 1

/-- A whole number of 128 binary digits. -/
def integer? (text : String) : Option Int :=
  match unsigned? (Nat.pow 2 128 - 1) text with
  | some n => some n
  | none => negative? (Nat.pow 2 127) text

/-! ### Other numbers -/

/-- A number with a point, or one of the values beyond the numbers. -/
inductive Real where
  | finite (value : Number.Binary64)
  | infinite (negative : Bool)
  | undefined
  deriving DecidableEq, Repr

/-- The text of a number. -/
def Real.text : Real → String
  | .finite value => value.text
  | .infinite negative => if negative then "-inf" else "inf"
  | .undefined => "NaN"

/-- Whether a text has two signs in front. -/
def hasTwoSigns : List Char → Bool
  | '+' :: c :: _ => c == '+' || c == '-'
  | _ => false

/-- A number with a point or an exponent, or one of the words for infinity and for no number. -/
def real? (text : String) : Option Real :=
  if hasTwoSigns text.toList then none
  else if [".inf", ".Inf", ".INF"].contains (String.ofList (dropPlus text.toList)) then
    some (.infinite false)
  else if ["-.inf", "-.Inf", "-.INF"].contains text then some (.infinite true)
  else if [".nan", ".NaN", ".NAN"].contains text then some .undefined
  else ((Number.Decimal.parse? text.toList).bind Number.Binary64.ofDecimal?).map .finite

/-! ### Meaning -/

/-- What a scalar stands for. -/
inductive Meaning where
  | nothing
  | truth (value : Bool)
  | integer (value : Int)
  | real (value : Real)
  | text (value : String)
  deriving DecidableEq, Repr

/-- What a plain scalar stands for. -/
def Meaning.ofPlain (text : String) : Meaning :=
  if text.isEmpty || isNull text then .nothing
  else match truth? text, integer? text with
    | some b, _ => .truth b
    | none, some n => .integer n
    | none, none =>
      let digits := match text.toList with
        | '-' :: cs => cs
        | cs => dropPlus cs
      if isPadded digits then .text text
      else match real? text with
        | some r => .real r
        | none => .text text

/-- The meaning in words. -/
def Meaning.describe : Meaning → String
  | .nothing => "unit value"
  | .truth b => "boolean `" ++ Text.truth b ++ "`"
  | .integer n =>
    "integer `" ++ toString n ++ "`" ++
      if maxWord < n then " as u128" else if n < -(Nat.pow 2 63 : Int) then " as i128" else ""
  | .real r => "floating point `" ++ r.text ++ "`"
  | .text s => "string " ++ Text.quote s

/-! ### Tags -/

/-- The kinds that a tag can ask for. -/
inductive CoreTag where
  | null
  | bool
  | int
  | float
  deriving DecidableEq, Repr

/-- The tag of a kind. -/
def CoreTag.uri : CoreTag → String
  | .null => "tag:yaml.org,2002:null"
  | .bool => "tag:yaml.org,2002:bool"
  | .int => "tag:yaml.org,2002:int"
  | .float => "tag:yaml.org,2002:float"

/-- The kind that a tag asks for. -/
def CoreTag.ofTag? (tag : Option String) : Option CoreTag :=
  [CoreTag.null, .bool, .int, .float].find? fun t => tag == some t.uri

/-- The kind in words. -/
def CoreTag.describe : CoreTag → String
  | .null => "null"
  | .bool => "a boolean"
  | .int => "an integer"
  | .float => "a float"

/-- The meaning of a text as a given kind. -/
def CoreTag.meaning? (text : String) : CoreTag → Option Meaning
  | .null => if isNull text then some .nothing else none
  | .bool => (truth? text).map .truth
  | .int => (integer? text).map .integer
  | .float => (real? text).map .real

/-- What a scalar stands for, or the kind that its tag asks for in vain. -/
def Meaning.ofScalar (tag : Option String) (text : String) (style : Style) :
    Except CoreTag Meaning :=
  match CoreTag.ofTag? tag with
  | some kind =>
    match kind.meaning? text with
    | some m => .ok m
    | none => .error kind
  | none =>
    if style = .plain ∧ tag.all (·.startsWith "!") then .ok (.ofPlain text)
    else .ok (.text text)

end Gatehouse.Yaml
