import Gatehouse.Buffer.Stream

namespace Gatehouse.Buffer

/-!
# Buffered readers

A reader goes through one buffer borrowed from a pool. Reads into at least as much room as the
buffer has bypass it. Whatever the buffer held before is never handed out: only bytes between
`pos` and `filled` are, and those came from the source.

* `Reader.poll` — one attempt to read; `Reader.held` — bytes read ahead and not yet handed out;
* `Reader.read` — attempts until one is not pending, with the room each offered to the source;
* `Reader.readToEnd` — reads until one gives no bytes.
-/

/-- A source read through a buffer. -/
structure Reader where
  source : Source
  buffer : Bytes
  pos : Nat
  filled : Nat
  deriving DecidableEq, Repr, Inhabited

namespace Reader

/-- A reader with an empty look-ahead over a buffer of any contents. -/
def start (source : Source) (buffer : Bytes) : Reader := ⟨source, buffer, 0, 0⟩

/-- Bytes taken from the source and not yet handed out. -/
def held (r : Reader) : Bytes := (r.buffer.take r.filled).drop r.pos

/-- Hands out bytes held, as many as fit. -/
def serve (r : Reader) (n : Nat) : Bytes × Reader :=
  let got := r.held.take n
  (got, { r with pos := r.pos + got.length })

/-- Stores bytes at the front of the buffer. -/
def store (r : Reader) (source : Source) (got : Bytes) : Reader :=
  ⟨source, got ++ r.buffer.drop got.length, 0, got.length⟩

/-- The room that an attempt offers to the source, if it asks it at all. -/
def room? (r : Reader) (n : Nat) : Option Nat :=
  if r.pos ≥ r.filled then some (max n r.buffer.length) else none

/-- One attempt to read at most `n` bytes. -/
def poll (r : Reader) (n : Nat) : Polled × Reader :=
  if r.pos ≥ r.filled then
    if n ≥ r.buffer.length then
      let (polled, source) := r.source.poll n
      (polled, { r with source := source })
    else match r.source.poll r.buffer.length with
      | (.bytes got, source) =>
        let (out, r') := (r.store source got).serve n
        (.bytes out, r')
      | (other, source) => (other, { r with source := source })
  else
    let (out, r') := r.serve n
    (.bytes out, r')

/-- The outcome of a read with the room offered at each attempt. -/
structure ReadResult where
  result : Except String Bytes
  rooms : List Nat
  deriving Repr

/-- Repeats attempts while they are pending, at most `fuel` times more. -/
def readWithin : Nat → Reader → Nat → ReadResult × Reader
  | fuel, r, n =>
    let room := (r.room? n).toList
    match r.poll n with
    | (.bytes got, r') => (⟨.ok got, room⟩, r')
    | (.failure reason, r') => (⟨.error reason, room⟩, r')
    | (.pending, r') =>
      match fuel with
      | 0 => (⟨.ok [], room⟩, r')
      | fuel + 1 =>
        let (out, r'') := readWithin fuel r' n
        (⟨out.result, room ++ out.rooms⟩, r'')

/-- Reads at most `n` bytes. Every pause in the source is met once, so there are no more attempts
    than arrivals to come and one. -/
def read (r : Reader) (n : Nat) : ReadResult × Reader := readWithin r.source.coming.length r n

/-- The room offered by the reads of `readToEnd`. -/
def chunk : Nat := 32

/-- Collects reads, at most `fuel` of them, until one gives no bytes or fails. -/
def readToEndWithin : Nat → Bytes → Reader → Except String Bytes × Reader
  | 0, acc, r => (.ok acc, r)
  | fuel + 1, acc, r =>
    match r.read chunk with
    | (⟨.ok [], _⟩, r') => (.ok acc, r')
    | (⟨.ok got, _⟩, r') => readToEndWithin fuel (acc ++ got) r'
    | (⟨.error reason, _⟩, r') => (.error reason, r')

/-- Reads until a read gives no bytes. Every read before it takes at least one byte. -/
def readToEnd (r : Reader) : Except String Bytes × Reader :=
  readToEndWithin (r.held.length + r.source.remaining + 1) [] r

/-- What the buffer held before does not show. -/
@[simp] theorem held_start (source : Source) (buffer : Bytes) :
    (start source buffer).held = [] := by
  simp [held, start]

@[simp] theorem held_store (r : Reader) (source : Source) (got : Bytes) :
    (r.store source got).held = got := by
  simp [held, store]

/-- Handing out loses no byte. -/
theorem serve_append_held (r : Reader) (n : Nat) :
    (r.serve n).1 ++ (r.serve n).2.held = r.held := by
  have h : (r.serve n).2.held = r.held.drop (r.held.take n).length := by
    simp [serve, held, List.drop_drop]
  rw [h]
  simp only [serve, List.length_take]
  by_cases hn : n ≤ r.held.length
  · rw [Nat.min_eq_left hn, List.take_append_drop]
  · rw [Nat.min_eq_right (by omega), List.take_of_length_le (by omega), List.drop_length,
      List.append_nil]

end Reader

end Gatehouse.Buffer
