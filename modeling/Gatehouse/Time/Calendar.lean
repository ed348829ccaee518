namespace Gatehouse

/-!
# Points in time

* `Timestamp` — a date and a time of day with its distance from universal time;
* `Timestamp.unix`, `Timestamp.instant` — seconds and thousandths of a second since 1970;
* `Timestamp.debug` — the diagnostic rendering.
-/

namespace Calendar

/-- Whether a year has 366 days. -/
def isLeap (year : Nat) : Bool := year % 4 = 0 && (year % 100 ≠ 0 || year % 400 = 0)

/-- The days of a month; none outside the year. -/
def daysIn (year month : Nat) : Nat :=
  if month = 2 then (if isLeap year then 29 else 28)
  else if [4, 6, 9, 11].contains month then 30
  else if 1 ≤ month ∧ month ≤ 12 then 31
  else 0

/-- Whether a date exists. -/
def isDate (year month day : Nat) : Bool := 1 ≤ day && day ≤ daysIn year month

/-- Leap years in front of a year, counted from year zero. -/
def leapsBefore (year : Nat) : Nat := (year + 3) / 4 - (year + 99) / 100 + (year + 399) / 400

/-- Days from the start of year zero to a date. -/
def dayCount (year month day : Nat) : Nat :=
  365 * year + leapsBefore year
    + (List.range (month - 1)).foldl (fun n m => n + daysIn year (m + 1)) 0 + (day - 1)

/-- Days from 1970-01-01 to a date. -/
def dayNumber (year month day : Nat) : Int := (dayCount year month day : Int) - dayCount 1970 1 1

end Calendar

/-- A date and a time of day, `offset` minutes ahead of universal time. -/
structure Timestamp where
  year : Nat
  month : Nat
  day : Nat
  hour : Nat
  minute : Nat
  second : Nat
  milli : Nat
  offset : Int
  deriving DecidableEq, Repr, Inhabited

namespace Timestamp

/-- Seconds of a day. -/
def secondsPerDay : Nat := 86400

/-- Seconds since 1970-01-01 00:00:00 in universal time, a part of a second dropped. -/
def unix (t : Timestamp) : Int :=
  Calendar.dayNumber t.year t.month t.day * secondsPerDay
    + (t.hour * 3600 + t.minute * 60 + t.second : Nat) - t.offset * 60

/-- Thousandths of a second since 1970-01-01 00:00:00 in universal time. -/
def instant (t : Timestamp) : Int := t.unix * 1000 + t.milli

/-- Digits with zeros in front. -/
def padded (width n : Nat) : String :=
  let ds := Nat.toDigits 10 n
  String.ofList (List.replicate (width - ds.length) '0' ++ ds)

/-- The part of a second, without zeros at the end. -/
def fraction (milli : Nat) : String :=
  let ds := ((padded 3 milli).toList.reverse.dropWhile (· == '0')).reverse
  if ds.isEmpty then "0" else String.ofList ds

/-- The distance from universal time. -/
def offsetText (offset : Int) : String :=
  (if offset < 0 then "-" else "+") ++ padded 2 (offset.natAbs / 60) ++ ":" ++
    padded 2 (offset.natAbs % 60) ++ ":00"

/-- The diagnostic rendering. -/
def debug (t : Timestamp) : String :=
  padded 4 t.year ++ "-" ++ padded 2 t.month ++ "-" ++ padded 2 t.day ++ " " ++
    toString t.hour ++ ":" ++ padded 2 t.minute ++ ":" ++ padded 2 t.second ++ "." ++
    fraction t.milli ++ " " ++ offsetText t.offset

end Timestamp

end Gatehouse
