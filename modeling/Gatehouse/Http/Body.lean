import Gatehouse.Text.Utf8

namespace Gatehouse.Http

/-!
# Message bodies

A body is a stream of frames that may end in a read failure. Beside its frames it carries a size
hint: what is promised about its length before it is read.

* `SizeHint`, `SizeHint.known?` — bounds on a length, and the length itself when they coincide;
* `Body` — frames, hint and failure; `Body.empty`, `Body.full` — bodies of known size;
* `Body.content` — all bytes, or the failure; `Body.contentUpTo` — the same within a limit.
-/

/-- Bounds on the length of a body. -/
structure SizeHint where
  lower : Nat
  upper : Option Nat
  deriving DecidableEq, Repr, Inhabited

namespace SizeHint

/-- The length is known. -/
def ofSize (n : Nat) : SizeHint := ⟨n, some n⟩

/-- Nothing is known about the length. -/
def unknown : SizeHint := ⟨0, none⟩

/-- The length, when both bounds agree. -/
def known? (h : SizeHint) : Option Nat := if h.upper = some h.lower then some h.lower else none

@[simp] theorem known?_ofSize (n : Nat) : (ofSize n).known? = some n := by simp [known?, ofSize]

end SizeHint

/-- A message body: its frames in order, the hint given beforehand, and the failure that ends the
    stream, if one does. -/
structure Body where
  frames : List Bytes
  hint : SizeHint
  failure : Option String
  deriving DecidableEq, Repr, Inhabited

namespace Body

/-- The body without content. -/
def empty : Body := ⟨[], .ofSize 0, none⟩

/-- A body of known content. -/
def full (bytes : Bytes) : Body :=
  ⟨if bytes.isEmpty then [] else [bytes], .ofSize bytes.length, none⟩

/-- A text as body. -/
def ofText (s : String) : Body := full (Utf8.bytes s)

/-- All frames joined, whatever ends the stream. -/
def bytes (b : Body) : Bytes := b.frames.flatten

/-- The content, or the failure met while reading it. -/
def content (b : Body) : Except String Bytes :=
  match b.failure with
  | none => .ok b.bytes
  | some reason => .error reason

/-- Whether the body promises to hold nothing. -/
def isKnownEmpty (b : Body) : Bool := b.hint.known? == some 0

/-- Why a body was not read to its end. -/
inductive ReadFault where
  | tooLarge
  | failed (reason : String)
  deriving DecidableEq, Repr

/-- Whether the frames fit into what is left of a limit, frame by frame. -/
def fits : Nat → List Bytes → Bool
  | _, [] => true
  | room, f :: fs => f.length ≤ room && fits (room - f.length) fs

/-- The content within a limit. Frames are counted as they arrive, so a frame that goes beyond the
    limit is noticed before a failure behind it. -/
def contentUpTo (limit : Nat) (b : Body) : Except ReadFault Bytes :=
  if !fits limit b.frames then .error .tooLarge
  else match b.failure with
    | none => .ok b.bytes
    | some reason => .error (.failed reason)

@[simp] theorem hint_empty : empty.hint = .ofSize 0 := rfl

@[simp] theorem hint_full (bs : Bytes) : (full bs).hint = .ofSize bs.length := rfl

@[simp] theorem bytes_full (bs : Bytes) : (full bs).bytes = bs := by
  cases bs <;> simp [full, bytes]

@[simp] theorem failure_full (bs : Bytes) : (full bs).failure = none := rfl

/-- How the frames are cut does not matter to the limit. -/
theorem fits_iff (limit : Nat) (fs : List Bytes) :
    fits limit fs = true ↔ fs.flatten.length ≤ limit := by
  induction fs generalizing limit with
  | nil => simp [fits]
  | cons f fs ih =>
    simp only [fits, Bool.and_eq_true, decide_eq_true_eq, ih, List.flatten_cons,
      List.length_append]
    omega

end Body

end Gatehouse.Http
