import Gatehouse.Proofs.Buffer.Transparency

namespace Gatehouse.Buffer

/-!
# What a buffer held before does not show

A buffer comes from a pool with the bytes of whoever had it last. Two readers that start over
buffers of the same length, and meet the same stream, make the same attempts: what they hand out,
and what they ask of the stream, depends on no byte that the stream did not give them.

* `Reader.Alike` — readers that differ at most in bytes which are never handed out;
  `Reader.Alike.poll` — an attempt finds out no difference, and makes none;
* `Behaviour`, `Reader.attemptsOn` — attempts over a stream that may answer a poll depending on the
  room offered and on all polls before; `Reader.attemptsOn_behaviour` — a source is such a stream;
* `attempts_isolated` — what was in the buffer at first does not matter to any attempt.
-/

namespace Reader

/-- The readers differ at most in bytes of their buffers that do not come from the source. -/
structure Alike (r r' : Reader) : Prop where
  source : r.source = r'.source
  pos : r.pos = r'.pos
  filled : r.filled = r'.filled
  length : r.buffer.length = r'.buffer.length
  front : r.buffer.take r.filled = r'.buffer.take r.filled

variable {r r' : Reader}

/-- Nothing is filled at first. -/
theorem alike_start (source : Source) {buffer buffer' : Bytes}
    (h : buffer.length = buffer'.length) : (start source buffer).Alike (start source buffer') :=
  ⟨rfl, rfl, rfl, h, rfl⟩

theorem Alike.held (h : r.Alike r') : r.held = r'.held := by
  rw [Reader.held, Reader.held, h.front, h.pos, h.filled]

theorem Alike.serve (h : r.Alike r') (n : Nat) :
    (r.serve n).1 = (r'.serve n).1 ∧ (r.serve n).2.Alike (r'.serve n).2 := by
  have hgot : r.held.take n = r'.held.take n := congrArg (List.take n) h.held
  refine ⟨hgot, h.source, ?_, h.filled, h.length, h.front⟩
  show r.pos + (r.held.take n).length = r'.pos + (r'.held.take n).length
  rw [h.pos, hgot]

/-- What the source gives is all that is filled then. -/
theorem Alike.store (h : r.Alike r') (source : Source) (got : Bytes) :
    (r.store source got).Alike (r'.store source got) := by
  refine ⟨rfl, rfl, rfl, ?_, ?_⟩
  · simp only [Reader.store, List.length_append, List.length_drop, h.length]
  · show (got ++ r.buffer.drop got.length).take got.length
      = (got ++ r'.buffer.drop got.length).take got.length
    rw [List.take_left', List.take_left'] <;> rfl

theorem Alike.ofSource (h : r.Alike r') (source : Source) :
    Alike { r with source := source } { r' with source := source } :=
  ⟨rfl, h.pos, h.filled, h.length, h.front⟩

/-- An attempt does the same with both readers, and leaves them alike. -/
theorem Alike.poll (h : r.Alike r') (n : Nat) :
    (r.poll n).1 = (r'.poll n).1 ∧ (r.poll n).2.Alike (r'.poll n).2 := by
  -- Which branch is taken depends on the marks and the length alone.
  rw [Reader.poll, Reader.poll, ← h.pos, ← h.filled, ← h.length, ← h.source]
  split
  · split
    · exact ⟨rfl, rfl, rfl, rfl, h.length, h.front⟩
    · cases hasked : r.source.poll r.buffer.length with
      | mk answer source =>
        cases answer with
        | bytes got =>
          obtain ⟨hout, hnext⟩ := (h.store source got).serve n
          exact ⟨congrArg Polled.bytes hout, hnext⟩
        | failure reason => exact ⟨rfl, rfl, rfl, rfl, h.length, h.front⟩
        | pending => exact ⟨rfl, rfl, rfl, rfl, h.length, h.front⟩
  · obtain ⟨hout, hnext⟩ := h.serve n
    exact ⟨congrArg Polled.bytes hout, hnext⟩

theorem Alike.room? (h : r.Alike r') (n : Nat) : r.room? n = r'.room? n := by
  rw [Reader.room?, Reader.room?, h.pos, h.filled, h.length]

/-- The attempt is the same down to the poll of the source that it takes. -/
theorem Alike.attempt (h : r.Alike r') (n : Nat) : r.attempt n = r'.attempt n := by
  rw [Reader.attempt, Reader.attempt, (h.poll n).1, h.room? n, h.source]

end Reader

/-! ### Streams of any behaviour -/

/-- What a stream gives when it is polled, depending on the room offered and on all polls before it
    with what they gave. -/
abbrev Behaviour := List (Nat × Polled) → Nat → Polled

/-- A source is one such stream: the room offered before settles what it gives next. -/
def Source.behaviour (source : Source) : Behaviour :=
  fun past room => ((source.polls (past.map (·.1))).2.poll room).1

namespace Reader

/-- The reader in front of a stream: if its next attempt polls, what the stream gives then is what
    arrives, as far as there is room for it. -/
def facing (r : Reader) (stream : Behaviour) (past : List (Nat × Polled)) (n : Nat) : Reader :=
  { r with source := .ofArrivals ((r.room? n).toList.map fun room => (stream past room).arrival) }

/-- The attempts that a reader makes for the given sizes at a stream that was polled before, and the
    reader after them. -/
def attemptsOn (stream : Behaviour) (past : List (Nat × Polled)) (r : Reader) :
    List Nat → List Attempt × Reader
  | [] => ([], r)
  | n :: ns =>
    let now := r.facing stream past n
    let later := attemptsOn stream (past ++ (now.attempt n).asked.toList) (now.poll n).2 ns
    (now.attempt n :: later.1, later.2)

/-- Over another source that gives the same for the room offered, an attempt does the same. -/
theorem poll_ofSource {r : Reader} {source : Source} {n : Nat}
    (h : ∀ room, r.room? n = some room → (source.poll room).1 = (r.source.poll room).1) :
    (poll { r with source := source } n).1 = (r.poll n).1 ∧
    ∃ later, (poll { r with source := source } n).2 = { (r.poll n).2 with source := later } := by
  by_cases hempty : r.filled ≤ r.pos
  · by_cases hlarge : r.buffer.length ≤ n
    · have hroom : r.room? n = some n := by rw [room?, if_pos hempty, Nat.max_eq_left hlarge]
      simp only [poll, ge_iff_le, if_pos hempty, if_pos hlarge]
      exact ⟨h n hroom, (source.poll n).2, rfl⟩
    · have hroom : r.room? n = some r.buffer.length := by
        rw [room?, if_pos hempty, Nat.max_eq_right (Nat.le_of_not_le hlarge)]
      have hsame := h r.buffer.length hroom
      simp only [poll, ge_iff_le, if_pos hempty, if_neg hlarge]
      cases hasked : source.poll r.buffer.length with
      | mk answer later =>
        cases hasked' : r.source.poll r.buffer.length with
        | mk answer' later' =>
          rw [hasked, hasked'] at hsame
          obtain rfl : answer = answer' := hsame
          cases answer <;> exact ⟨rfl, later, rfl⟩
  · simp only [poll, ge_iff_le, if_neg hempty]
    exact ⟨rfl, source, rfl⟩

theorem attempt_ofSource {r : Reader} {source : Source} {n : Nat}
    (h : ∀ room, r.room? n = some room → (source.poll room).1 = (r.source.poll room).1) :
    attempt { r with source := source } n = r.attempt n := by
  have hasked : (r.room? n).map (fun room => (room, (source.poll room).1))
      = (r.room? n).map fun room => (room, (r.source.poll room).1) :=
    Option.map_congr fun room hroom => congrArg (Prod.mk room) (h room hroom)
  show Attempt.mk n (poll { r with source := source } n).1 _ = _
  rw [(poll_ofSource h).1]
  exact congrArg (Attempt.mk n (r.poll n).1) hasked

/-- At a source, a reader makes the attempts that it makes with the source as its own: `past` are
    the polls that the source has had by then. -/
theorem attemptsOn_behaviour (source : Source) {past : List (Nat × Polled)} {r : Reader}
    (hsource : r.source = (source.polls (past.map (·.1))).2) (arrived : Source) (sizes : List Nat) :
    (attemptsOn source.behaviour past { r with source := arrived } sizes).1
      = (r.attempts sizes).1 := by
  -- By induction on the sizes, with `r` after some attempts and the polls that they took.
  induction sizes generalizing past r arrived with
  | nil => rfl
  | cons n ns ih =>
    -- What arrives is what the source of `r` gives for the room that `r` offers.
    have hsame : ∀ room, r.room? n = some room →
        ((r.facing source.behaviour past n).source.poll room).1 = (r.source.poll room).1 := by
      intro room hroom
      have hfit := r.source.length_given_poll_le room
      have hpoll := Source.poll_arrival hfit []
      simp only [Reader.facing, hroom, Option.toList_some, List.map_cons, List.map_nil,
        Source.behaviour, ← hsource, hpoll]
    have hattempt : (r.facing source.behaviour past n).attempt n = r.attempt n :=
      attempt_ofSource hsame
    obtain ⟨-, later, hnext⟩ := poll_ofSource hsame
    have hlater : (r.poll n).2.source
        = (source.polls ((past ++ (r.attempt n).asked.toList).map (·.1))).2 := by
      rw [List.map_append, Source.polls_append, ← hsource, (r.step_poll n).polls_source]
    have hattempts := ih hlater later
    rw [← hnext, ← hattempt] at hattempts
    exact List.cons_eq_cons.2 ⟨hattempt, hattempts⟩

variable {r r' : Reader}

theorem Alike.facing (h : r.Alike r') (stream : Behaviour) (past : List (Nat × Polled)) (n : Nat) :
    (r.facing stream past n).Alike (r'.facing stream past n) := by
  rw [Reader.facing, Reader.facing, h.room? n]
  exact h.ofSource _

theorem Alike.attemptsOn (h : r.Alike r') (stream : Behaviour) (past : List (Nat × Polled))
    (sizes : List Nat) :
    (attemptsOn stream past r sizes).1 = (attemptsOn stream past r' sizes).1 := by
  induction sizes generalizing r r' past with
  | nil => rfl
  | cons n ns ih =>
    have hnow := h.facing stream past n
    have hlater := ih (hnow.poll n).2 (past ++ (r'.facing stream past n |>.attempt n).asked.toList)
    simp only [Reader.attemptsOn, hnow.attempt n, hlater]

end Reader

/-- Readers over buffers of the same length make the same attempts, whatever the buffers hold,
    whatever the source or the stream does and whatever the sizes of the reads: they return the same
    bytes and failures, and poll with the same room. -/
theorem attempts_isolated {buffer buffer' : Bytes} (h : buffer.length = buffer'.length)
    (sizes : List Nat) (source : Source) :
    ((Reader.start source buffer).attempts sizes).1
      = ((Reader.start source buffer').attempts sizes).1 ∧
    ∀ stream : Behaviour,
      (Reader.attemptsOn stream [] (Reader.start source buffer) sizes).1
        = (Reader.attemptsOn stream [] (Reader.start source buffer') sizes).1 := by
  have hstart := Reader.alike_start source h
  -- A source is a stream like any other.
  have hown (b : Bytes) : (Reader.attemptsOn source.behaviour [] (Reader.start source b) sizes).1
      = ((Reader.start source b).attempts sizes).1 :=
    @Reader.attemptsOn_behaviour source [] (Reader.start source b) rfl source sizes
  have hstream (stream : Behaviour) := hstart.attemptsOn stream [] sizes
  exact ⟨(hown buffer).symm.trans ((hstream source.behaviour).trans (hown buffer')), hstream⟩

/-- Over a buffer with four bytes of somebody else and over one of zeros: some held bytes are
    served, a failure comes after a short answer, and a large read bypasses the buffer. -/
theorem attempts_isolated_stale :
    ([7, 7, 7, 7] : Bytes).length = ([0, 0, 0, 0] : Bytes).length ∧
    ((Reader.start (.ofArrivals [.data [1, 2], .failure "reset", .data [3, 4, 5]])
        [7, 7, 7, 7]).attempts [1, 3, 3, 8]).1
      = ((Reader.start (.ofArrivals [.data [1, 2], .failure "reset", .data [3, 4, 5]])
        [0, 0, 0, 0]).attempts [1, 3, 3, 8]).1 := by
  have hlength : ([7, 7, 7, 7] : Bytes).length = ([0, 0, 0, 0] : Bytes).length := rfl
  exact ⟨hlength, (attempts_isolated hlength _ _).1⟩

end Gatehouse.Buffer
