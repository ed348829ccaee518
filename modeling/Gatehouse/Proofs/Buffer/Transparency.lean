import Gatehouse.Proofs.Buffer.Attempt

namespace Gatehouse.Buffer

/-!
# Reading through a buffer changes nothing

The attempts of a reader, one after another, are set beside the polls of its source that they take.
What the attempts return, followed by what the reader still holds, is what the polls gave.

* `Reader.attempts` — a run of attempts; `polled` — the polls that they took;
* `Transparent` — what a run has to do with its source; `attempts_transparent`;
* `Reader.read_eq_attempts` — a read that waits is a run of attempts.
-/

/-! ### Runs of attempts -/

/-- The polls of the source that some attempts took, with the room offered to each. -/
def polled (as : List Attempt) : List (Nat × Polled) := as.flatMap (·.asked.toList)

/-- A run in two parts takes the polls of both. -/
theorem polled_append (as bs : List Attempt) : polled (as ++ bs) = polled as ++ polled bs :=
  List.flatMap_append

namespace Reader

/-- The attempts that a reader makes for the given sizes, and the reader after them. -/
def attempts (r : Reader) : List Nat → List Attempt × Reader
  | [] => ([], r)
  | n :: ns =>
    let later := (r.poll n).2.attempts ns
    (r.attempt n :: later.1, later.2)

/-- The source is polled as the attempts say. -/
theorem polls_attempts (r : Reader) (sizes : List Nat) :
    r.source.polls ((polled (r.attempts sizes).1).map (·.1))
      = ((polled (r.attempts sizes).1).map (·.2), (r.attempts sizes).2.source) := by
  induction sizes generalizing r with
  | nil => rfl
  | cons n ns ih =>
    have hstep := (r.step_poll n).polls_source
    have hlater := ih (r.poll n).2
    simp only [attempts, polled, List.flatMap_cons, List.map_append] at hlater ⊢
    -- An attempt takes no poll or one, which comes before those of the later attempts.
    cases hasked : (r.attempt n).asked with
    | none =>
      rw [hasked] at hstep
      have hsource : (r.poll n).2.source = r.source := (congrArg Prod.snd hstep).symm
      rw [hsource] at hlater
      exact hlater
    | some poll =>
      rw [hasked] at hstep
      obtain ⟨hanswer, hsource⟩ := Prod.mk.inj hstep
      simp only [Option.toList_some, List.map_cons, List.map_nil, List.cons.injEq, and_true,
        Source.polls] at hanswer hsource
      simp only [Option.toList_some, List.map_cons, List.map_nil, List.singleton_append,
        Source.polls, hanswer, hsource, hlater]

/-- What the attempts return, followed by what is held then, is what was held before, followed by
    what the source gave. -/
theorem signals_attempts (r : Reader) (sizes : List Nat) :
    (r.attempts sizes).1.flatMap (·.result.signals) ++ (r.attempts sizes).2.held.map .byte
      = r.held.map .byte ++ (polled (r.attempts sizes).1).flatMap (·.2.signals) := by
  induction sizes generalizing r with
  | nil => simp [attempts, polled]
  | cons n ns ih =>
    have hlater := ih (r.poll n).2
    have hstep := (r.step_poll n).signals
    simp only [attempts, polled, List.flatMap_cons, List.flatMap_append] at hlater ⊢
    rw [List.append_assoc, hlater, ← List.append_assoc, hstep, List.append_assoc]

/-- Every attempt is faithful. -/
theorem faithful_attempts {r : Reader} (hr : r.WellFormed) (sizes : List Nat) :
    ∀ a ∈ (r.attempts sizes).1, a.Faithful r.buffer.length := by
  induction sizes generalizing r with
  | nil => exact fun a ha => absurd ha List.not_mem_nil
  | cons n ns ih =>
    have hstep := r.step_poll n
    have hlater := ih (hstep.wellFormed hr)
    rw [hstep.length_buffer] at hlater
    intro a ha
    rcases List.mem_cons.1 ha with rfl | ha
    · exact hstep.faithful hr
    · exact hlater a ha

end Reader

/-- What some attempts and the reader after them have to do with a source read through a buffer of
    some capacity. -/
structure Transparent (source : Source) (capacity : Nat) (as : List Attempt) (r : Reader) :
    Prop where
  /-- The source gave these answers to these polls, and the reader goes on with what is left. -/
  polls : source.polls ((polled as).map (·.1)) = ((polled as).map (·.2), r.source)
  /-- The bytes returned, followed by those held, are those that the source gave. -/
  bytes : as.flatMap (·.result.given) ++ r.held = (polled as).flatMap (·.2.given)
  /-- So are the bytes and failures: each failure is returned once, behind all earlier bytes. -/
  signals : as.flatMap (·.result.signals) ++ r.held.map .byte = (polled as).flatMap (·.2.signals)
  faithful : ∀ a ∈ as, a.Faithful capacity

/-- The bytes among some signals. -/
def bytesOf (signals : List Signal) : Bytes :=
  signals.filterMap fun | .byte b => some b | .failure _ => none

/-- Bytes as signals are nothing but bytes. -/
theorem bytesOf_map_byte (bytes : Bytes) : bytesOf (bytes.map .byte) = bytes := by
  rw [bytesOf, List.filterMap_map]
  exact List.filterMap_some

theorem bytesOf_append (ss ts : List Signal) : bytesOf (ss ++ ts) = bytesOf ss ++ bytesOf ts :=
  List.filterMap_append

/-- The bytes among what some polls tell are the bytes that they give. -/
theorem bytesOf_flatMap {α : Type} (xs : List α) (f : α → Polled) :
    bytesOf (xs.flatMap fun x => (f x).signals) = xs.flatMap fun x => (f x).given := by
  have hone : ∀ p : Polled, bytesOf p.signals = p.given := by
    intro p
    cases p with
    | bytes got => exact bytesOf_map_byte got
    | failure reason => rfl
    | pending => rfl
  induction xs with
  | nil => rfl
  | cons x xs ih =>
    rw [List.flatMap_cons, List.flatMap_cons, bytesOf_append, hone, ih]

/-- Whatever a source does, whatever the buffer holds at first and whatever the sizes of the reads,
    a reader is transparent. -/
theorem attempts_transparent (source : Source) (buffer : Bytes) (sizes : List Nat) :
    Transparent source buffer.length ((Reader.start source buffer).attempts sizes).1
      ((Reader.start source buffer).attempts sizes).2 := by
  have hstart : (Reader.start source buffer).WellFormed := ⟨Nat.le_refl 0, Nat.zero_le _⟩
  have hsignals := (Reader.start source buffer).signals_attempts sizes
  rw [Reader.held_start, List.map_nil, List.nil_append] at hsignals
  refine ⟨Reader.polls_attempts (.start source buffer) sizes, ?_, hsignals,
    Reader.faithful_attempts hstart sizes⟩
  -- The bytes are those among the signals.
  have hbytes := congrArg bytesOf hsignals
  rw [bytesOf_append, bytesOf_flatMap, bytesOf_map_byte, bytesOf_flatMap] at hbytes
  exact hbytes

/-! ### Reads that wait -/

/-- What a read that does not wait any longer ends with. -/
def Polled.outcome : Polled → Except String Bytes
  | .failure reason => .error reason
  | p => .ok p.given

namespace Reader

/-- An attempt offers the source the room that it says. -/
theorem rooms_attempt (r : Reader) (n : Nat) :
    (polled [r.attempt n]).map (·.1) = (r.room? n).toList := by
  simp only [polled, attempt, List.flatMap_cons, List.flatMap_nil, List.append_nil]
  cases r.room? n <;> rfl

/-- A read ends with the first attempt that is not pending. -/
theorem readWithin_of_ne_pending {r : Reader} {n : Nat} (fuel : Nat)
    (h : (r.poll n).1 ≠ .pending) :
    readWithin fuel r n = (⟨(r.poll n).1.outcome, (r.room? n).toList⟩, (r.poll n).2) := by
  obtain ⟨answer, r', hpoll⟩ : ∃ answer r', r.poll n = (answer, r') := ⟨_, _, rfl⟩
  rw [hpoll] at h ⊢
  rw [readWithin]
  cases answer with
  | bytes got => simp only [hpoll, Polled.outcome, Polled.given]
  | failure reason => simp only [hpoll, Polled.outcome]
  | pending => exact absurd rfl h

/-- A read goes on behind a pending attempt. -/
theorem readWithin_of_pending {r : Reader} {n : Nat} (fuel : Nat) (h : (r.poll n).1 = .pending) :
    readWithin (fuel + 1) r n
      = (⟨(readWithin fuel (r.poll n).2 n).1.result,
          (r.room? n).toList ++ (readWithin fuel (r.poll n).2 n).1.rooms⟩,
          (readWithin fuel (r.poll n).2 n).2) := by
  obtain ⟨answer, r', hpoll⟩ : ∃ answer r', r.poll n = (answer, r') := ⟨_, _, rfl⟩
  rw [hpoll] at h ⊢
  obtain rfl := h
  rw [readWithin]
  simp only [hpoll]

/-- With fuel for every arrival to come, a read makes attempts until one is not pending. -/
theorem readWithin_eq_attempts (fuel : Nat) (r : Reader) (n : Nat)
    (hfuel : r.source.coming.length ≤ fuel) :
    ∃ pauses answer, answer ≠ .pending ∧
      (r.attempts (List.replicate (pauses + 1) n)).1.map (·.result)
        = List.replicate pauses .pending ++ [answer] ∧
      readWithin fuel r n
        = (⟨answer.outcome, (polled (r.attempts (List.replicate (pauses + 1) n)).1).map (·.1)⟩,
            (r.attempts (List.replicate (pauses + 1) n)).2) := by
  induction fuel generalizing r with
  | zero =>
    -- A pending attempt would need a pause, and no arrival is left.
    have hne : (r.poll n).1 ≠ .pending := by
      intro hpending
      have hlen := (r.step_poll n).length_coming hpending
      omega
    refine ⟨0, (r.poll n).1, hne, rfl, ?_⟩
    rw [readWithin_of_ne_pending 0 hne, ← rooms_attempt]
    rfl
  | succ fuel ih =>
    by_cases hpending : (r.poll n).1 = .pending
    · have hlen := (r.step_poll n).length_coming hpending
      obtain ⟨pauses, answer, hanswer, hresults, hread⟩ := ih (r.poll n).2 (by omega)
      refine ⟨pauses + 1, answer, hanswer, ?_, ?_⟩
      · rw [List.replicate_succ, attempts, List.map_cons, hresults, List.replicate_succ,
          List.cons_append]
        exact congrArg (· :: _) hpending
      · rw [readWithin_of_pending fuel hpending, hread, ← rooms_attempt, ← List.map_append,
          ← polled_append]
        rfl
    · refine ⟨0, (r.poll n).1, hpending, rfl, ?_⟩
      rw [readWithin_of_ne_pending _ hpending, ← rooms_attempt]
      rfl

/-- A read that waits is a run of attempts of its size, all pending but the last. -/
theorem read_eq_attempts (r : Reader) (n : Nat) :
    ∃ pauses answer, answer ≠ .pending ∧
      (r.attempts (List.replicate (pauses + 1) n)).1.map (·.result)
        = List.replicate pauses .pending ++ [answer] ∧
      r.read n
        = (⟨answer.outcome, (polled (r.attempts (List.replicate (pauses + 1) n)).1).map (·.1)⟩,
            (r.attempts (List.replicate (pauses + 1) n)).2) :=
  readWithin_eq_attempts _ r n (Nat.le_refl _)

end Reader

end Gatehouse.Buffer
