import Gatehouse.Handler

namespace Gatehouse.Stage

open Http

/-!
# Framing stage

Brings the framing fields of a response in line with the body about to be written.
`Transfer-Encoding` is always removed. Responses of status 1xx and 204 carry no `Content-Length`,
responses to `HEAD` keep theirs, a body of known size gets its own, and otherwise a
`Content-Length` that is no number or contradicts the size hint is dropped.

* `declaredLength?` — the number a `Content-Length` value declares;
* `frame` — the rule for one response; `framing` — the stage.
-/

/-- The largest length a field can declare. -/
def maxLength : Nat := Nat.pow 2 64 - 1

/-- Reads a length: digits with an optional plus sign in front, within 64 bits. -/
def readLength? (text : List Char) : Option Nat :=
  let digits := match text with
    | '+' :: rest => rest
    | _ => text
  if digits.isEmpty || !digits.all Char.isDigit then none
  else
    let n := digits.foldl (fun n c => n * 10 + (c.toNat - 48)) 0
    if n ≤ maxLength then some n else none

/-- The number that the first `Content-Length` value declares, blanks around it aside. -/
def declaredLength? (h : Headers) : Option Nat :=
  ((h.first? .contentLength).bind valueText?).bind fun text => readLength? (Text.trim text)

/-- Whether a length lies outside the bounds of a hint. -/
def contradicts (hint : SizeHint) (n : Nat) : Bool :=
  n < hint.lower || hint.upper.any (· < n)

/-- The fields of a response, once framed. -/
def framedHeaders (isHead : Bool) (r : Response) : Headers :=
  let h := r.headers.remove .transferEncoding
  if r.status.isInformational || r.status == .noContent then h.remove .contentLength
  else if isHead then h
  else match r.body.hint.known? with
    | some size => h.insert .contentLength (decimalValue size)
    | none =>
      match declaredLength? h with
      | some n => if contradicts r.body.hint n then h.remove .contentLength else h
      | none => h.remove .contentLength

/-- The response with its framing fields in line with its body. -/
def frame (isHead : Bool) (r : Response) : Response :=
  { r with headers := framedHeaders isHead r }

/-- The framing stage. -/
def framing : Wrapper := fun inner request =>
  (inner request).mapResponse (frame (request.method == .head))

/-- `Transfer-Encoding` never leaves the stage. -/
theorem getAll_transferEncoding_frame (isHead : Bool) (r : Response) :
    (frame isHead r).headers.getAll .transferEncoding = [] := by
  have h : FieldName.contentLength ≠ FieldName.transferEncoding := by decide
  simp only [frame, framedHeaders]
  repeat' split
  all_goals simp [Headers.getAll_remove_of_ne, Headers.getAll_insert_of_ne, h]

end Gatehouse.Stage
