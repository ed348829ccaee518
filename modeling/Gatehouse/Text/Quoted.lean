import Gatehouse.Text.Printable

namespace Gatehouse.Text

/-!
# Quoted text

How strings are written inside the diagnostic rendering of a value: between double quotes, with a
backslash before a quote or backslash, the usual letters for line breaks and tabs, and the code
point in braces for every other character that is not printable on its own.

* `quoteChar`, `quote` — one character, a whole string;
* `record`, `list`, `optional` — the shapes values are put together with.
-/

/-- Lower-case hexadecimal digits of a number. -/
def hexDigits (n : Nat) : String := String.ofList (Nat.toDigits 16 n)

/-- How a character is written inside quotes. -/
def quoteChar (c : Char) : String :=
  match c with
  | '\x00' => "\\0"
  | '\t' => "\\t"
  | '\r' => "\\r"
  | '\n' => "\\n"
  | '"' => "\\\""
  | '\\' => "\\\\"
  | c => if isPrintable c then String.singleton c else "\\u\x7b" ++ hexDigits c.toNat ++ "\x7d"

/-- A string between quotes. -/
def quote (s : String) : String :=
  "\"" ++ s.toList.foldl (fun acc c => acc ++ quoteChar c) "" ++ "\""

/-- A value with named fields: `Name { field: value, … }`. -/
def record (name : String) (fields : List (String × String)) : String :=
  match fields with
  | [] => name
  | _ => name ++ " \x7b " ++ ", ".intercalate (fields.map fun (k, v) => k ++ ": " ++ v) ++ " \x7d"

/-- A list of values: `[a, b]`. -/
def list (items : List String) : String := "[" ++ ", ".intercalate items ++ "]"

/-- A constructor applied to values: `Name(a)`. -/
def applied (name : String) (arg : String) : String := name ++ "(" ++ arg ++ ")"

/-- A value that may be absent: `Some(a)` or `None`. -/
def optional : Option String → String
  | some s => applied "Some" s
  | none => "None"

/-- A truth value. -/
def truth (b : Bool) : String := if b then "true" else "false"

end Gatehouse.Text
