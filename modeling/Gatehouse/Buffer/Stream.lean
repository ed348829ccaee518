import Gatehouse.Text.Utf8

namespace Gatehouse.Buffer

/-!
# Byte streams

The two directions of a connection, as a program for what arrives and a record of what is sent.

* `Source` — chunks, failures and pauses that arrive in order; `Source.poll` offers room for some
  bytes and takes what is there;
* `Sink` — what was written, flushed and shut down.
-/

/-- One thing that arrives. -/
inductive Arrival where
  | data (bytes : Bytes)
  | failure (reason : String)
  | pause
  deriving DecidableEq, Repr, Inhabited

/-- What a poll gives. The end of the stream is a poll that gives no bytes. -/
inductive Polled where
  | bytes (got : Bytes)
  | failure (reason : String)
  | pending
  deriving DecidableEq, Repr, Inhabited

/-- What is still to arrive: the rest of the chunk being read, then the arrivals after it. -/
structure Source where
  rest : Bytes
  coming : List Arrival
  deriving DecidableEq, Repr, Inhabited

namespace Source

/-- A source that has not been read. -/
def ofArrivals (coming : List Arrival) : Source := ⟨[], coming⟩

/-- Offers room for some bytes. A chunk that does not fit is continued by the next poll. -/
def poll (s : Source) (room : Nat) : Polled × Source :=
  if !s.rest.isEmpty then (.bytes (s.rest.take room), { s with rest := s.rest.drop room })
  else match s.coming with
    | [] => (.bytes [], s)
    | .data bytes :: coming => (.bytes (bytes.take room), ⟨bytes.drop room, coming⟩)
    | .failure reason :: coming => (.failure reason, ⟨[], coming⟩)
    | .pause :: coming => (.pending, ⟨[], coming⟩)

/-- Bytes still to arrive. -/
def remaining (s : Source) : Nat :=
  s.coming.foldl (fun n arrival =>
    match arrival with
    | .data bytes => n + bytes.length
    | _ => n) s.rest.length

end Source

/-- A call that a sink received. -/
inductive SinkCall where
  | write (taken : Nat)
  | writeVectored (parts taken : Nat)
  | flush
  | shutdown
  deriving DecidableEq, Repr, Inhabited

/-- What was sent: the bytes taken, at most `limit` by each write, and the calls in order. -/
structure Sink where
  limit : Nat
  vectored : Bool
  written : Bytes
  calls : List SinkCall
  deriving DecidableEq, Repr, Inhabited

namespace Sink

/-- A sink that has received nothing. -/
def start (limit : Nat) (vectored : Bool) : Sink := ⟨limit, vectored, [], []⟩

/-- One write; gives the number of bytes taken. -/
def write (s : Sink) (bytes : Bytes) : Nat × Sink :=
  let taken := bytes.take s.limit
  (taken.length,
    { s with written := s.written ++ taken, calls := s.calls ++ [.write taken.length] })

/-- One write of several parts; gives the number of bytes taken. -/
def writeVectored (s : Sink) (parts : List Bytes) : Nat × Sink :=
  let taken := parts.flatten.take s.limit
  (taken.length,
    { s with
      written := s.written ++ taken
      calls := s.calls ++ [.writeVectored parts.length taken.length] })

/-- A flush. -/
def flush (s : Sink) : Sink := { s with calls := s.calls ++ [.flush] }

/-- The end of what is sent. -/
def shutdown (s : Sink) : Sink := { s with calls := s.calls ++ [.shutdown] }

end Sink

end Gatehouse.Buffer
