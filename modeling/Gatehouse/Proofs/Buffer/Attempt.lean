import Gatehouse.Buffer.Reader

namespace Gatehouse.Buffer

/-!
# One attempt to read

An attempt of a reader is set beside the poll of its source that it takes, if it takes one.

* `Signal` — what a poll tells: bytes and failures, in order;
* `Source.polls` — polls one after another; `Source.polls_ofAnswers` — every sequence of answers
  that fit the room offered is that of some source;
* `Attempt` — what a caller asks for and gets, and the poll that this takes;
* `Reader.Step` — the four things that one attempt can do; `Reader.step_poll`;
* `Reader.Step.signals`, `Reader.Step.faithful` — what an attempt keeps, and what it returns.
-/

/-! ### What a source tells -/

/-- A byte or a failure. -/
inductive Signal where
  | byte (value : UInt8)
  | failure (reason : String)

namespace Polled

/-- The bytes that a poll gives. -/
def given : Polled → Bytes
  | .bytes got => got
  | _ => []

/-- The bytes and failures that a poll gives. -/
def signals : Polled → List Signal
  | .bytes got => got.map .byte
  | .failure reason => [.failure reason]
  | .pending => []

/-- The arrival that makes a poll give this. -/
def arrival : Polled → Arrival
  | .bytes got => .data got
  | .failure reason => .failure reason
  | .pending => .pause

end Polled

namespace Source

/-- Polls that offer the given room one after another. -/
def polls (s : Source) : List Nat → List Polled × Source
  | [] => ([], s)
  | room :: rooms =>
    let later := (s.poll room).2.polls rooms
    ((s.poll room).1 :: later.1, later.2)

/-- A poll gives no more bytes than it offers room for. -/
theorem length_given_poll_le (s : Source) (room : Nat) : (s.poll room).1.given.length ≤ room := by
  obtain ⟨rest, coming⟩ := s
  rw [poll]
  cases rest with
  | cons b rest => exact List.length_take_le room (b :: rest)
  | nil =>
    cases coming with
    | nil => exact Nat.zero_le room
    | cons a coming =>
      cases a with
      | data bytes => exact List.length_take_le room bytes
      | failure reason => exact Nat.zero_le room
      | pause => exact Nat.zero_le room

/-- A poll is pending at a pause only, which it takes away. -/
theorem length_coming_of_pending {s s' : Source} {room : Nat} (h : s.poll room = (.pending, s')) :
    s.coming.length = s'.coming.length + 1 := by
  obtain ⟨rest, coming⟩ := s
  rw [poll] at h
  cases rest with
  | cons b rest => simp at h
  | nil =>
    cases coming with
    | nil => simp at h
    | cons a coming =>
      cases a with
      | data bytes => simp at h
      | failure reason => simp at h
      | pause =>
        obtain rfl : (⟨[], coming⟩ : Source) = s' := congrArg Prod.snd h
        rfl

/-- An arrival that fits the room offered is given as it is. -/
theorem poll_arrival {room : Nat} {answer : Polled} (h : answer.given.length ≤ room)
    (coming : List Arrival) :
    (ofArrivals (answer.arrival :: coming)).poll room = (answer, ofArrivals coming) := by
  cases answer with
  | bytes got =>
    have htake : got.take room = got := List.take_of_length_le h
    have hdrop : got.drop room = [] := List.drop_of_length_le h
    simp [ofArrivals, poll, Polled.arrival, htake, hdrop]
  | failure reason => rfl
  | pending => rfl

/-- Whatever answers some polls get, as long as they fit the room offered, there is a source that
    gives them. -/
theorem polls_ofAnswers (answers : List (Nat × Polled))
    (h : ∀ a ∈ answers, a.2.given.length ≤ a.1) :
    (ofArrivals (answers.map (·.2.arrival))).polls (answers.map (·.1))
      = (answers.map (·.2), ofArrivals []) := by
  induction answers with
  | nil => rfl
  | cons a answers ih =>
    have hpoll := poll_arrival (h a List.mem_cons_self) (answers.map (·.2.arrival))
    have hlater := ih fun b hb => h b (List.mem_cons_of_mem _ hb)
    simp only [List.map_cons, polls]
    rw [hpoll, hlater]

/-- Polls in two parts. -/
theorem polls_append (s : Source) (first later : List Nat) :
    (s.polls (first ++ later)).2 = ((s.polls first).2.polls later).2 := by
  induction first generalizing s with
  | nil => rfl
  | cons room first ih => exact ih (s.poll room).2

end Source

/-! ### One attempt -/

/-- One attempt of a reader: the room the caller offered, what it got, and the poll of the source
    that it took, with the room offered there. -/
structure Attempt where
  size : Nat
  result : Polled
  asked : Option (Nat × Polled)

namespace Reader

/-- The bytes to be handed out lie within the buffer. -/
structure WellFormed (r : Reader) : Prop where
  pos_le : r.pos ≤ r.filled
  filled_le : r.filled ≤ r.buffer.length

/-- The attempt that a reader makes. -/
def attempt (r : Reader) (n : Nat) : Attempt :=
  ⟨n, (r.poll n).1, (r.room? n).map fun room => (room, (r.source.poll room).1)⟩

/-- What one attempt can do: hand out held bytes; or, with none held, ask the source in place of the
    caller; or fill the buffer and hand out from it; or learn that the source has no bytes now. -/
inductive Step (r : Reader) (n : Nat) : Attempt → Reader → Prop where
  | serve (held : r.pos < r.filled) : Step r n ⟨n, .bytes (r.serve n).1, none⟩ (r.serve n).2
  | bypass {answer : Polled} {source : Source} (empty : r.filled ≤ r.pos)
      (large : r.buffer.length ≤ n) (asked : r.source.poll n = (answer, source)) :
      Step r n ⟨n, answer, some (n, answer)⟩ { r with source := source }
  | refill {got : Bytes} {source : Source} (empty : r.filled ≤ r.pos)
      (small : n < r.buffer.length) (asked : r.source.poll r.buffer.length = (.bytes got, source)) :
      Step r n ⟨n, .bytes ((r.store source got).serve n).1, some (r.buffer.length, .bytes got)⟩
        ((r.store source got).serve n).2
  | stay {answer : Polled} {source : Source} (empty : r.filled ≤ r.pos)
      (small : n < r.buffer.length) (asked : r.source.poll r.buffer.length = (answer, source))
      (nothing : ∀ got, answer ≠ .bytes got) :
      Step r n ⟨n, answer, some (r.buffer.length, answer)⟩ { r with source := source }

/-- One attempt does one of these. -/
theorem step_poll (r : Reader) (n : Nat) : r.Step n (r.attempt n) (r.poll n).2 := by
  -- Each branch fixes the room offered and the outcome together.
  by_cases hempty : r.filled ≤ r.pos
  · by_cases hlarge : r.buffer.length ≤ n
    · have hroom : r.room? n = some n := by
        rw [room?, if_pos hempty, Nat.max_eq_left hlarge]
      have hpoll : r.poll n = ((r.source.poll n).1, { r with source := (r.source.poll n).2 }) := by
        rw [poll, if_pos hempty, if_pos hlarge]
      rw [attempt, hroom, hpoll]
      exact .bypass hempty hlarge rfl
    · have hsmall : n < r.buffer.length := Nat.lt_of_not_le hlarge
      have hroom : r.room? n = some r.buffer.length := by
        rw [room?, if_pos hempty, Nat.max_eq_right (Nat.le_of_lt hsmall)]
      rw [attempt, hroom, poll, if_pos hempty, if_neg hlarge, Option.map_some]
      cases hasked : r.source.poll r.buffer.length with
      | mk answer source =>
        cases answer with
        | bytes got => exact .refill hempty hsmall hasked
        | failure reason => exact .stay hempty hsmall hasked (by simp)
        | pending => exact .stay hempty hsmall hasked (by simp)
  · have hroom : r.room? n = none := by rw [room?, if_neg hempty]
    have hpoll : r.poll n = (.bytes (r.serve n).1, (r.serve n).2) := by rw [poll, if_neg hempty]
    rw [attempt, hroom, hpoll]
    exact .serve (Nat.lt_of_not_le hempty)

/-- Nothing is held once everything filled is handed out. -/
theorem held_eq_nil {r : Reader} (h : r.filled ≤ r.pos) : r.held = [] := by
  rw [held]
  refine List.drop_of_length_le ?_
  exact Nat.le_trans (List.length_take_le _ _) h

/-- What is held lies between the two marks. -/
theorem length_held {r : Reader} (h : r.WellFormed) : r.held.length = r.filled - r.pos := by
  rw [held, List.length_drop, List.length_take, Nat.min_eq_left h.filled_le]

/-- Handing out stays within the buffer. -/
theorem WellFormed.serve {r : Reader} (h : r.WellFormed) (n : Nat) : (r.serve n).2.WellFormed := by
  refine ⟨?_, h.filled_le⟩
  have hlen : (r.held.take n).length ≤ r.filled - r.pos := by
    rw [← length_held h]
    exact List.length_take_le' n r.held
  have hpos := h.pos_le
  show r.pos + (r.held.take n).length ≤ r.filled
  omega

/-- A stored answer lies within the buffer. -/
theorem wellFormed_store (r : Reader) (source : Source) (got : Bytes) :
    (r.store source got).WellFormed := by
  refine ⟨Nat.zero_le _, ?_⟩
  simp [store]

namespace Step

variable {r r' : Reader} {n : Nat} {a : Attempt}

/-- The bytes to be handed out stay within the buffer. -/
theorem wellFormed (h : r.Step n a r') (hr : r.WellFormed) : r'.WellFormed := by
  cases h with
  | serve held => exact hr.serve n
  | bypass empty large asked => exact ⟨hr.pos_le, hr.filled_le⟩
  | refill empty small asked => exact (wellFormed_store _ _ _).serve n
  | stay empty small asked nothing => exact ⟨hr.pos_le, hr.filled_le⟩

/-- The buffer keeps its length. -/
theorem length_buffer (h : r.Step n a r') : r'.buffer.length = r.buffer.length := by
  cases h with
  | serve held => rfl
  | bypass empty large asked => rfl
  | @refill got source empty small asked =>
    -- The answer is no longer than the buffer, whose front it overwrites.
    have hfit := r.source.length_given_poll_le r.buffer.length
    rw [asked] at hfit
    simp only [Polled.given] at hfit
    simp only [Reader.serve, Reader.store, List.length_append, List.length_drop]
    omega
  | stay empty small asked nothing => rfl

/-- The source is polled as the attempt says. -/
theorem polls_source (h : r.Step n a r') :
    r.source.polls (a.asked.toList.map (·.1)) = (a.asked.toList.map (·.2), r'.source) := by
  cases h with
  | serve held => rfl
  | bypass empty large asked => simp [Source.polls, asked]
  | refill empty small asked => simp [Source.polls, asked, Reader.serve, Reader.store]
  | stay empty small asked nothing => simp [Source.polls, asked]

/-- What is returned, followed by what is held then, is what was held before, followed by what the
    source gave. -/
theorem signals (h : r.Step n a r') :
    a.result.signals ++ r'.held.map .byte
      = r.held.map .byte ++ a.asked.toList.flatMap (·.2.signals) := by
  cases h with
  | serve held =>
    -- The source is not asked: what is handed out was held.
    rw [Polled.signals, ← List.map_append, serve_append_held]
    simp
  | @bypass answer source empty large asked =>
    have hheld' : held ⟨source, r.buffer, r.pos, r.filled⟩ = [] := held_eq_nil empty
    simp [held_eq_nil empty, hheld']
  | @refill got source empty small asked =>
    -- Nothing was held, and what the source gives is held before it is handed out.
    rw [Polled.signals, ← List.map_append, serve_append_held, held_store, held_eq_nil empty]
    simp [Polled.signals]
  | @stay answer source empty small asked nothing =>
    have hheld' : held ⟨source, r.buffer, r.pos, r.filled⟩ = [] := held_eq_nil empty
    simp [held_eq_nil empty, hheld']

/-- A pending attempt meets a pause of the source and takes it away. -/
theorem length_coming (h : r.Step n a r') (hpending : a.result = .pending) :
    r.source.coming.length = r'.source.coming.length + 1 := by
  cases h with
  | serve held => exact absurd hpending (by simp)
  | bypass empty large asked =>
    obtain rfl := hpending
    exact Source.length_coming_of_pending asked
  | refill empty small asked => exact absurd hpending (by simp)
  | stay empty small asked nothing =>
    obtain rfl := hpending
    exact Source.length_coming_of_pending asked

end Step

end Reader

/-- What holds of a single attempt over a buffer of some capacity. -/
structure Attempt.Faithful (capacity : Nat) (a : Attempt) : Prop where
  /-- A failure is returned exactly when the source gives it. -/
  failure : ∀ reason, a.result = .failure reason ↔ ∃ room, a.asked = some (room, .failure reason)
  /-- An attempt is pending exactly when the source is. -/
  pending : a.result = .pending ↔ ∃ room, a.asked = some (room, .pending)
  /-- No more bytes are returned than the caller has room for. -/
  fits : a.result.given.length ≤ a.size
  /-- A caller with room gets no bytes only if the source gives none. -/
  empty : 0 < a.size → a.result = .bytes [] → ∃ room, a.asked = some (room, .bytes [])
  /-- The source is offered room for a whole buffer. -/
  room : ∀ room answer, a.asked = some (room, answer) → capacity ≤ room

/-- Every attempt of a well-formed reader is faithful. -/
theorem Reader.Step.faithful {r r' : Reader} {n : Nat} {a : Attempt} (h : r.Step n a r')
    (hr : r.WellFormed) : a.Faithful r.buffer.length := by
  have htake : ∀ (bytes : Bytes), 0 < n → bytes.take n = [] → bytes = [] := by
    intro bytes hn ht
    rcases List.take_eq_nil_iff.1 ht with h0 | hnil
    · omega
    · exact hnil
  cases h with
  | serve held =>
    refine ⟨by simp, by simp, List.length_take_le n r.held, ?_, by simp⟩
    -- A reader that holds bytes does not hand out none of them.
    intro hn hresult
    have hnil : r.held = [] := htake r.held hn (Polled.bytes.inj hresult)
    have hlen := Reader.length_held hr
    rw [hnil, List.length_nil] at hlen
    omega
  | @bypass answer source empty large asked =>
    have hfit := r.source.length_given_poll_le n
    rw [asked] at hfit
    refine ⟨by simp, by simp, hfit, fun _ hresult => ⟨n, by rw [← hresult]⟩, ?_⟩
    intro room answer' heq
    obtain ⟨rfl, -⟩ := Prod.mk.inj (Option.some.inj heq)
    exact large
  | @refill got source empty small asked =>
    refine ⟨by simp, by simp, List.length_take_le n _, ?_, ?_⟩
    · intro hn hresult
      have hnil : (r.store source got).held = [] := htake _ hn (Polled.bytes.inj hresult)
      rw [Reader.held_store] at hnil
      exact ⟨_, by rw [hnil]⟩
    · intro room answer' heq
      obtain ⟨rfl, -⟩ := Prod.mk.inj (Option.some.inj heq)
      exact Nat.le_refl _
  | @stay answer source empty small asked nothing =>
    refine ⟨by simp, by simp, ?_, fun _ hresult => absurd hresult (nothing []), ?_⟩
    · cases answer with
      | bytes got => exact absurd rfl (nothing got)
      | failure reason => exact Nat.zero_le n
      | pending => exact Nat.zero_le n
    · intro room answer' heq
      obtain ⟨rfl, -⟩ := Prod.mk.inj (Option.some.inj heq)
      exact Nat.le_refl _

end Gatehouse.Buffer
