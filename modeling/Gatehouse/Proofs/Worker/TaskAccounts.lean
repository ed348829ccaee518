import Gatehouse.Proofs.Places
import Gatehouse.Proofs.Runs
import Gatehouse.Worker.Tasks
import Mathlib.Data.List.Basic
import Mathlib.Data.List.Induction

namespace Gatehouse.Worker

/-!
# Accounts of the task gate

Permits and answers of a gate are accounted for after any events: every permit is either free or
held by an execution that runs, and every call stands where its own events have brought it, with one
answer if it was answered and with none before.

* `Step` — what an event does at a gate; `step?_eq_some_iff`;
* `ownEvents`, `Standing` — the events of one call, and how it stands after them;
* `permits_step`, `standing_step` — one event keeps the accounts of permits and of each call;
* `Accounts`, `Accounts.step` — the accounts of a whole gate, kept by every event;
* `steps_accounted` — the accounts after any events, and what they say about a worker that was shut
  down.
-/

/-- The call that an event is about, if it is about a single one that has arrived. -/
def TaskEvent.call? : TaskEvent → Option Nat
  | .start call | .finish call _ | .cancel call => some call
  | .arrive | .shutdown => none

namespace TaskGate

/-! ### One event -/

/-- What an event does at a gate. -/
inductive Step (g : TaskGate) : TaskEvent → TaskGate → Prop where
  | arrived (isOpen : g.isOpen = true) : Step g .arrive { g with calls := g.calls ++ [.waiting] }
  | turnedAway (closed : g.isOpen = false) :
      Step g .arrive
        ({ g with calls := g.calls ++ [Phase.waiting] }.answer g.calls.length shutdownOutcome)
  | started {call : Nat} (isOpen : g.isOpen = true) (free : 0 < g.free)
      (waiting : g.calls[call]? = some .waiting) :
      Step g (.start call) { g with free := g.free - 1, calls := g.calls.set call .running }
  | finished {call : Nat} {outcome : Outcome} (running : g.calls[call]? = some .running) :
      Step g (.finish call outcome)
        { g.answer call (settle outcome) with free := g.free + 1 }
  | cancelled {call : Nat} (closed : g.isOpen = false)
      (running : g.calls[call]? = some .running) :
      Step g (.cancel call) { g.answer call shutdownOutcome with free := g.free + 1 }
  | shutDown : Step g .shutdown g.close

variable {g g' : TaskGate} {e : TaskEvent} {events : List TaskEvent} {call : Nat}

theorem step?_eq_some_iff : g.step? e = some g' ↔ Step g e g' := by
  constructor
  · intro h
    cases e with
    | arrive =>
      simp only [step?] at h
      split at h
      · next hopen =>
        obtain rfl := Option.some.inj h
        exact .arrived hopen
      · next hclosed =>
        obtain rfl := Option.some.inj h
        exact .turnedAway (Bool.not_eq_true _ ▸ hclosed)
    | start call =>
      simp only [step?] at h
      split at h
      · next hstart =>
        obtain rfl := Option.some.inj h
        exact .started hstart.1 hstart.2.1 hstart.2.2
      · cases h
    | finish call outcome =>
      simp only [step?] at h
      split at h
      · next hrunning =>
        obtain rfl := Option.some.inj h
        exact .finished hrunning
      · cases h
    | cancel call =>
      simp only [step?] at h
      split at h
      · next hcancel =>
        obtain rfl := Option.some.inj h
        exact .cancelled (by simpa using hcancel.1) hcancel.2
      · cases h
    | shutdown =>
      obtain rfl := Option.some.inj h
      exact .shutDown
  · intro h
    cases h with
    | arrived isOpen => simp only [step?, isOpen, if_true]
    | turnedAway closed => simp only [step?, closed, Bool.false_eq_true, if_false]
    | started isOpen free waiting => simp only [step?, isOpen, free, waiting, and_self, if_true]
    | finished running => simp only [step?, running, if_true]
    | cancelled closed running => simp [step?, closed, running]
    | shutDown => rfl

/-! ### Permits -/

/-- A shutdown ends no execution by itself. -/
theorem count_running_close (g : TaskGate) : g.close.count .running = g.count .running := by
  show (g.calls.map afterShutdown).count .running = g.calls.count .running
  induction g.calls with
  | nil => rfl
  | cons p calls ih =>
    have hp : afterShutdown p = .running ↔ p = .running := by cases p <;> simp [afterShutdown]
    rw [List.map_cons, List.count_cons, List.count_cons, ih]
    simp only [beq_iff_eq, hp]

/-- The execution of a call that ends gives its permit back, however it ends. -/
theorem permits_answer (outcome : Outcome) (h : g.calls[call]? = some .running) :
    (g.answer call outcome).count .running + 1 = g.count .running := by
  have hcount := Places.count_set_add Phase.running h .answered
  simpa [count, answer] using hcount

/-- No event takes a permit away or makes one. -/
theorem permits_step (h : Step g e g') :
    g'.count .running + g'.free = g.count .running + g.free := by
  cases h with
  | arrived isOpen => simp [count]
  | turnedAway closed => simp [count, answer]
  | started isOpen free waiting =>
    have hcount := Places.count_set_add Phase.running waiting .running
    simp only [reduceCtorEq, if_false, if_true] at hcount
    simp only [count]
    omega
  | @finished call outcome running =>
    have hback := permits_answer (settle outcome) running
    show (g.answer call (settle outcome)).count .running + (g.free + 1) = _
    omega
  | @cancelled call closed running =>
    have hback := permits_answer shutdownOutcome running
    show (g.answer call shutdownOutcome).count .running + (g.free + 1) = _
    omega
  | shutDown => rw [count_running_close, free_close]

/-! ### Answers -/

theorem answersOf_answer (g : TaskGate) (answered call : Nat) (outcome : Outcome) :
    (g.answer answered outcome).answersOf call
      = g.answersOf call ++ if answered = call then [outcome] else [] := by
  simp only [answersOf, answer, List.filter_append, List.map_append]
  by_cases h : answered = call
  · simp [h]
  · simp [h]

theorem mem_waiting_iff : call ∈ g.waiting ↔ g.calls[call]? = some .waiting := by
  simp only [waiting, List.mem_filter, List.mem_range, decide_eq_true_eq, and_iff_right_iff_imp]
  intro h
  exact (List.getElem?_eq_some_iff.1 h).1

/-- A shutdown answers the calls that wait, each of them once, and no others. -/
theorem answersOf_close (g : TaskGate) (call : Nat) :
    g.close.answersOf call
      = g.answersOf call ++ if g.calls[call]? = some .waiting then [shutdownOutcome] else [] := by
  -- A call waits once, so that the answers to those that wait hold one for it at most.
  have hnodup : g.waiting.Nodup := List.nodup_range.filter _
  have honce : (g.waiting.filter fun other => other = call)
      = if g.calls[call]? = some .waiting then [call] else [] := by
    rw [List.filter_eq, hnodup.count]
    simp only [mem_waiting_iff]
    split <;> rfl
  simp only [answersOf, close, List.filter_append, List.map_append, List.filter_map, List.map_map]
  congr 1
  show (g.waiting.filter fun other => other = call).map (fun _ => shutdownOutcome) = _
  rw [honce]
  split <;> rfl

/-! ### One call -/

/-- The events of one call, in order. -/
def ownEvents (events : List TaskEvent) (call : Nat) : List TaskEvent :=
  events.filter fun e => e.call? = some call

/-- How a call stands after some events, given its phase and the answers it was given. Before it was
    answered it has no answer, and afterwards it has one: what its execution came to, or that the
    worker was shut down. -/
inductive Standing (events : List TaskEvent) (call : Nat) : Option Phase → List Outcome → Prop where
  | absent (own : ownEvents events call = []) : Standing events call none []
  | waiting (own : ownEvents events call = []) (isOpen : .shutdown ∉ events) :
      Standing events call (some .waiting) []
  | running (own : ownEvents events call = [.start call]) :
      Standing events call (some .running) []
  | returned {outcome : Outcome} (own : ownEvents events call = [.start call, .finish call outcome])
      (returned : ∀ reason, outcome ≠ .aborted reason) :
      Standing events call (some .answered) [outcome]
  | panicked {reason : String}
      (own : ownEvents events call = [.start call, .finish call (.aborted reason)]) :
      Standing events call (some .answered) [.failed (.handler ("handler panicked: " ++ reason))]
  | cancelled (own : ownEvents events call = [.start call, .cancel call])
      (closed : .shutdown ∈ events) : Standing events call (some .answered) [shutdownOutcome]
  | neverStarted (own : ownEvents events call = []) (closed : .shutdown ∈ events) :
      Standing events call (some .answered) [shutdownOutcome]

variable {phase : Option Phase} {answers : List Outcome}

theorem ownEvents_append_self (h : e.call? = some call) :
    ownEvents (events ++ [e]) call = ownEvents events call ++ [e] := by
  simp [ownEvents, List.filter_append, h]

theorem ownEvents_append_of_ne (h : e.call? ≠ some call) :
    ownEvents (events ++ [e]) call = ownEvents events call := by
  simp [ownEvents, List.filter_append, h]

/-- A call stands as before when an event is neither its own nor a shutdown. -/
theorem Standing.other (h : Standing events call phase answers) (hown : e.call? ≠ some call)
    (he : e ≠ .shutdown) : Standing (events ++ [e]) call phase answers := by
  have hsame : ownEvents (events ++ [e]) call = ownEvents events call :=
    ownEvents_append_of_ne hown
  cases h with
  | absent own => exact .absent (hsame.trans own)
  | waiting own isOpen =>
    refine .waiting (hsame.trans own) fun hmem => ?_
    rcases List.mem_append.1 hmem with hmem | hmem
    · exact isOpen hmem
    · exact he (List.mem_singleton.1 hmem).symm
  | running own => exact .running (hsame.trans own)
  | returned own returned => exact .returned (hsame.trans own) returned
  | panicked own => exact .panicked (hsame.trans own)
  | cancelled own closed => exact .cancelled (hsame.trans own) (List.mem_append_left _ closed)
  | neverStarted own closed => exact .neverStarted (hsame.trans own) (List.mem_append_left _ closed)

/-- A shutdown answers a call that waits, and no other. -/
theorem Standing.shutdown (h : Standing events call phase answers) :
    Standing (events ++ [.shutdown]) call (phase.map afterShutdown)
      (answers ++ if phase = some .waiting then [shutdownOutcome] else []) := by
  have hsame : ownEvents (events ++ [.shutdown]) call = ownEvents events call :=
    ownEvents_append_of_ne nofun
  have hclosed : TaskEvent.shutdown ∈ events ++ [.shutdown] :=
    List.mem_append_right _ (List.mem_singleton_self _)
  cases h with
  | absent own => exact .absent (hsame.trans own)
  | waiting own isOpen => exact .neverStarted (hsame.trans own) hclosed
  | running own => exact .running (hsame.trans own)
  | returned own returned => exact .returned (hsame.trans own) returned
  | panicked own => exact .panicked (hsame.trans own)
  | cancelled own closed => exact .cancelled (hsame.trans own) hclosed
  | neverStarted own closed => exact .neverStarted (hsame.trans own) hclosed

/-- A call that has not arrived has nothing to its account. -/
theorem Standing.eq_of_none (h : Standing events call none answers) :
    ownEvents events call = [] ∧ answers = [] := by
  cases h with
  | absent own => exact ⟨own, rfl⟩

theorem Standing.eq_of_waiting (h : Standing events call (some .waiting) answers) :
    ownEvents events call = [] ∧ .shutdown ∉ events ∧ answers = [] := by
  cases h with
  | waiting own isOpen => exact ⟨own, isOpen, rfl⟩

theorem Standing.eq_of_running (h : Standing events call (some .running) answers) :
    ownEvents events call = [.start call] ∧ answers = [] := by
  cases h with
  | running own => exact ⟨own, rfl⟩

/-- A call that finished stands as its handler ended. -/
theorem Standing.of_finish {outcome : Outcome}
    (own : ownEvents events call = [.start call, .finish call outcome]) :
    Standing events call (some .answered) [settle outcome] := by
  cases outcome with
  | answered response => exact .returned own fun _ => nofun
  | failed error => exact .returned own fun _ => nofun
  | aborted reason => exact .panicked own

/-- A call that arrives stands where its arrival puts it, the others as before. -/
theorem Standing.arrive {p : Phase} {more : List Outcome}
    (h : Standing events call g.calls[call]? (g.answersOf call))
    (hcalls : g'.calls = g.calls ++ [p])
    (hanswers : g'.answersOf call
      = g.answersOf call ++ if g.calls.length = call then more else [])
    (hnew : ownEvents events call = [] → Standing (events ++ [.arrive]) call (some p) more) :
    Standing (events ++ [.arrive]) call g'.calls[call]? (g'.answersOf call) := by
  rw [hcalls, hanswers]
  by_cases hself : g.calls.length = call
  · subst hself
    -- Before it arrives, a call has no events and no answers.
    rw [List.getElem?_eq_none (Nat.le_refl _)] at h
    obtain ⟨hown, hempty⟩ := h.eq_of_none
    rw [if_pos rfl, hempty, List.nil_append, List.getElem?_concat_length]
    exact hnew hown
  · have hold : (g.calls ++ [p])[call]? = g.calls[call]? := by
      rcases Nat.lt_or_gt_of_ne hself with hlate | hearly
      · have hafter : (g.calls ++ [p]).length ≤ call := by
          rw [List.length_append, List.length_singleton]
          omega
        rw [List.getElem?_eq_none hafter, List.getElem?_eq_none (Nat.le_of_lt hlate)]
      · exact List.getElem?_append_left hearly
    rw [if_neg hself, List.append_nil, hold]
    exact h.other nofun nofun

/-- A call stands where its own event puts it, and the others as before. -/
theorem Standing.own {other : Nat} {p q : Phase} {more : List Outcome}
    (h : Standing events call g.calls[call]? (g.answersOf call)) (hother : e.call? = some other)
    (hphase : g.calls[other]? = some p) (hcalls : g'.calls = g.calls.set other q)
    (hanswers : g'.answersOf call = g.answersOf call ++ if other = call then more else [])
    (hown : other = call → Standing events call (some p) (g.answersOf call) →
      Standing (events ++ [e]) call (some q) (g.answersOf call ++ more)) :
    Standing (events ++ [e]) call g'.calls[call]? (g'.answersOf call) := by
  rw [hcalls, hanswers]
  -- Either the event is that of this call, or it leaves its phase and its answers alone.
  by_cases hself : other = call
  · obtain ⟨hlt, -⟩ := List.getElem?_eq_some_iff.1 hphase
    rw [if_pos hself, ← hself, List.getElem?_set_self hlt]
    rw [← hself, hphase] at h
    rw [hself] at h ⊢
    exact hown hself h
  · rw [if_neg hself, List.append_nil, List.getElem?_set_ne hself]
    refine h.other ?_ ?_
    · rw [hother]
      exact fun hsame => hself (Option.some.inj hsame)
    · rintro rfl
      cases hother

/-- An event keeps the account of every call. -/
theorem standing_step (hopen : g.isOpen = true ↔ .shutdown ∉ events) (hstep : Step g e g')
    (h : Standing events call g.calls[call]? (g.answersOf call)) :
    Standing (events ++ [e]) call g'.calls[call]? (g'.answersOf call) := by
  have harrive : ownEvents (events ++ [.arrive]) call = ownEvents events call :=
    ownEvents_append_of_ne nofun
  have hclosed : g.isOpen = false → .shutdown ∈ events := by
    intro hshut
    by_contra hnone
    rw [hopen.2 hnone] at hshut
    cases hshut
  have hnothing : ∀ q : Prop, [Decidable q] →
      g.answersOf call = g.answersOf call ++ if q then [] else [] := by
    intro q _
    rw [ite_self, List.append_nil]
  cases hstep with
  | arrived isOpen =>
    have hshut : TaskEvent.shutdown ∉ events ++ [.arrive] := by
      simpa using hopen.1 isOpen
    exact h.arrive rfl (hnothing _) fun own => .waiting (harrive.trans own) hshut
  | turnedAway closed =>
    have hshut : TaskEvent.shutdown ∈ events ++ [.arrive] :=
      List.mem_append_left _ (hclosed closed)
    exact h.arrive (by simp [answer]) (answersOf_answer _ _ _ _) fun own =>
      .neverStarted (harrive.trans own) hshut
  | started isOpen free waiting =>
    refine h.own rfl waiting rfl (hnothing _) ?_
    rintro rfl hcall
    obtain ⟨hown, -, hempty⟩ := hcall.eq_of_waiting
    rw [hempty]
    exact .running (by rw [ownEvents_append_self rfl, hown]; rfl)
  | @finished other outcome running =>
    refine h.own rfl running rfl (answersOf_answer _ _ _ _) ?_
    rintro rfl hcall
    obtain ⟨hown, hempty⟩ := hcall.eq_of_running
    rw [hempty]
    exact .of_finish (by rw [ownEvents_append_self rfl, hown]; rfl)
  | cancelled closed running =>
    refine h.own rfl running rfl (answersOf_answer _ _ _ _) ?_
    rintro rfl hcall
    obtain ⟨hown, hempty⟩ := hcall.eq_of_running
    rw [hempty]
    exact .cancelled (by rw [ownEvents_append_self rfl, hown]; rfl)
      (List.mem_append_left _ (hclosed closed))
  | shutDown =>
    have hphase : g.close.calls[call]? = g.calls[call]?.map afterShutdown := List.getElem?_map
    rw [answersOf_close, hphase]
    exact h.shutdown

/-! ### All events -/

/-- The accounts of a gate after some events. -/
structure Accounts (n : Nat) (events : List TaskEvent) (g : TaskGate) : Prop where
  /-- The gate is open until it is shut down. -/
  isOpen : g.isOpen = true ↔ .shutdown ∉ events
  /-- Every call that has arrived is known. -/
  arrivals : g.calls.length = events.count .arrive
  /-- Every permit is free or held by an execution that runs. -/
  permits : g.count .running + g.free = max n 1
  /-- Every call stands where its own events have brought it. -/
  standing : ∀ call, Standing events call g.calls[call]? (g.answersOf call)
  /-- Nothing starts after a shutdown. -/
  noStart : ∀ before after, events = before ++ .shutdown :: after → ∀ call, .start call ∉ after

theorem isOpen_step (h : Step g e g') : g'.isOpen = true ↔ g.isOpen = true ∧ e ≠ .shutdown := by
  cases h <;> simp [answer]

theorem length_calls_step (h : Step g e g') :
    g'.calls.length = g.calls.length + if e = .arrive then 1 else 0 := by
  cases h <;> simp [answer, close]

variable {n : Nat}

theorem accounts_ofThreads (n : Nat) : Accounts n [] (ofThreads n) where
  isOpen := iff_of_true rfl List.not_mem_nil
  arrivals := rfl
  permits := Nat.zero_add _
  standing _ := .absent rfl
  noStart before after h := by simp at h

/-- An event keeps the accounts. -/
theorem Accounts.step (h : Accounts n events g) (hstep : Step g e g') :
    Accounts n (events ++ [e]) g' where
  isOpen := by
    rw [isOpen_step hstep, h.isOpen, List.mem_append, List.mem_singleton, not_or, ne_comm]
  arrivals := by
    rw [length_calls_step hstep, h.arrivals, List.count_append, List.count_singleton]
    simp only [beq_iff_eq]
  permits := (permits_step hstep).trans h.permits
  standing call := standing_step h.isOpen hstep (h.standing call)
  noStart := by
    intro before after hsplit call hstart
    -- The last event is the shutdown itself, or comes after it.
    rcases List.eq_nil_or_concat after with rfl | ⟨earlier, last, rfl⟩
    · exact List.not_mem_nil hstart
    · rw [List.concat_eq_append, ← List.cons_append, ← List.append_assoc] at hsplit
      obtain ⟨hevents, hlast⟩ := List.append_inj' hsplit rfl
      rcases List.mem_append.1 (List.concat_eq_append ▸ hstart) with hearlier | hnow
      · exact h.noStart before earlier hevents call hearlier
      · have hclosed : TaskEvent.shutdown ∈ events := by
          rw [hevents]
          exact List.mem_append_right _ List.mem_cons_self
        rw [← List.mem_singleton.1 hnow] at hlast
        rw [List.singleton_inj.1 hlast] at hstep
        cases hstep with
        | started isOpen free waiting => exact h.isOpen.1 isOpen hclosed

/-- A run ends with an event after a run. -/
theorem steps?_append_singleton {g₀ : TaskGate} :
    g₀.steps? (events ++ [e]) = some g' ↔ ∃ g, g₀.steps? events = some g ∧ Step g e g' := by
  rw [steps?, Runs.foldlM_append_eq_some_iff]
  simp only [Runs.foldlM_cons_eq_some_iff, List.foldlM_nil, Option.pure_def, Option.some.injEq,
    exists_eq_right, step?_eq_some_iff, steps?]

/-- Any events that can happen one after another keep the accounts. -/
theorem accounts_of_steps (hrun : (ofThreads n).steps? events = some g) : Accounts n events g := by
  -- The last event comes first, so that the accounts before it are those of the other events.
  induction events using List.reverseRecOn generalizing g with
  | nil =>
    obtain rfl := Option.some.inj hrun
    exact accounts_ofThreads n
  | append_singleton events e ih =>
    obtain ⟨before, hbefore, hstep⟩ := steps?_append_singleton.1 hrun
    exact (ih hbefore).step hstep

/-! ### What the accounts say -/

theorem start_mem_of_ownEvents {own : List TaskEvent}
    (h : ownEvents events call = .start call :: own) : .start call ∈ events := by
  have hmem : TaskEvent.start call ∈ ownEvents events call := by
    rw [h]
    exact List.mem_cons_self
  exact (List.mem_filter.1 hmem).1

/-- Once the worker is shut down, a call that never started is answered so. -/
theorem Standing.eq_of_neverStarted {p : Phase} (h : Standing events call (some p) answers)
    (hclosed : .shutdown ∈ events) (hnever : .start call ∉ events) :
    answers = [shutdownOutcome] := by
  cases h with
  | waiting own isOpen => exact absurd hclosed isOpen
  | running own => exact absurd (start_mem_of_ownEvents own) hnever
  | returned own returned => exact absurd (start_mem_of_ownEvents own) hnever
  | panicked own => exact absurd (start_mem_of_ownEvents own) hnever
  | cancelled own closed => rfl
  | neverStarted own closed => rfl

theorem Standing.length_answers (h : Standing events call (some .answered) answers) :
    answers.length = 1 := by
  cases h <;> rfl

/-- Once nothing waits and nothing runs, every call that arrived was answered once. -/
theorem Accounts.length_answersOf (h : Accounts n events g) (hwaiting : g.count .waiting = 0)
    (hrunning : g.count .running = 0) (hcall : call < events.count .arrive) :
    (g.answersOf call).length = 1 := by
  have hstanding := h.standing call
  rw [← h.arrivals] at hcall
  rw [List.getElem?_eq_getElem hcall] at hstanding
  have hmem : g.calls[call] ∈ g.calls := List.getElem_mem hcall
  cases hphase : g.calls[call] with
  | waiting => exact absurd (hphase ▸ hmem) (List.count_eq_zero.1 hwaiting)
  | running => exact absurd (hphase ▸ hmem) (List.count_eq_zero.1 hrunning)
  | answered =>
    rw [hphase] at hstanding
    exact hstanding.length_answers

/-- A gate makes use of all its permits: a call only waits while they are all held, an execution can
    end at any time and however it likes, and when it ends its permit is free again. -/
structure UsesPermits (n : Nat) (g : TaskGate) : Prop where
  atMost : g.count .running ≤ max n 1
  startable : ∀ call, g.calls[call]? = some .waiting → g.count .running < max n 1 →
    ∃ g', g.step? (.start call) = some g'
  endable : ∀ call outcome, g.calls[call]? = some .running →
    ∃ g', g.step? (.finish call outcome) = some g'
  givenBack : ∀ call outcome g',
    g.step? (.finish call outcome) = some g' ∨ g.step? (.cancel call) = some g' →
      g'.free = g.free + 1 ∧ g'.count .running + 1 = g.count .running

theorem Accounts.usesPermits (h : Accounts n events g) : UsesPermits n g where
  atMost := by
    have hpermits := h.permits
    omega
  startable call hwaiting hroom := by
    have hstanding := h.standing call
    rw [hwaiting] at hstanding
    -- What waits was not answered by a shutdown, so that the gate is open.
    obtain ⟨-, hopen, -⟩ := hstanding.eq_of_waiting
    have hfree : 0 < g.free := by
      have hpermits := h.permits
      omega
    exact ⟨_, step?_eq_some_iff.2 (.started (h.isOpen.2 hopen) hfree hwaiting)⟩
  endable call outcome hrunning := ⟨_, step?_eq_some_iff.2 (.finished hrunning)⟩
  givenBack call outcome g' hends := by
    rcases hends with hends | hends
    · cases step?_eq_some_iff.1 hends with
      | finished running => exact ⟨rfl, permits_answer (settle outcome) running⟩
    · cases step?_eq_some_iff.1 hends with
      | cancelled closed running => exact ⟨rfl, permits_answer shutdownOutcome running⟩

/-- After any events that can happen one after another, permits and calls are accounted for, and the
    permits are made use of. When nothing is left that waits or runs, every call was answered
    once. After a shutdown no execution starts any more, and the calls that were not started by
    then, whether they waited or arrived later, are answered by it. -/
theorem steps_accounted (hrun : (ofThreads n).steps? events = some g) :
    Accounts n events g ∧ UsesPermits n g ∧
      (g.count .waiting = 0 → g.count .running = 0 →
        ∀ call < events.count .arrive, (g.answersOf call).length = 1) ∧
      ∀ before after, events = before ++ .shutdown :: after →
        (∀ call, .start call ∉ after) ∧
          ∀ call < events.count .arrive, .start call ∉ before →
            g.answersOf call = [shutdownOutcome] := by
  have haccounts := accounts_of_steps hrun
  refine ⟨haccounts, haccounts.usesPermits, fun hwaiting hrunning call hcall =>
    haccounts.length_answersOf hwaiting hrunning hcall, fun before after hsplit => ?_⟩
  have hnoStart := haccounts.noStart before after hsplit
  refine ⟨hnoStart, fun call hcall hbefore => ?_⟩
  have hclosed : TaskEvent.shutdown ∈ events := by
    rw [hsplit]
    exact List.mem_append_right _ List.mem_cons_self
  have hnever : TaskEvent.start call ∉ events := by
    rw [hsplit]
    simp [hbefore, hnoStart call]
  have hstanding := haccounts.standing call
  rw [← haccounts.arrivals] at hcall
  rw [List.getElem?_eq_getElem hcall] at hstanding
  exact hstanding.eq_of_neverStarted hclosed hnever

/-- One permit, and a handler that panics with another call waiting behind it; that one is running,
    and a third waits, when the worker is shut down. -/
def shutDownWhileRunning : List TaskEvent :=
  [.arrive, .arrive, .start 0, .finish 0 (.aborted "boom"), .start 1, .arrive, .shutdown, .cancel 1,
    .arrive]

/-- The permit of the call that panicked serves the next one, and every call has its one answer. -/
theorem steps_accounted_shutDownWhileRunning :
    ∃ g, (ofThreads 0).steps? shutDownWhileRunning = some g ∧
      Accounts 0 shutDownWhileRunning g ∧ g.free = 1 ∧
      g.answers = [(0, .failed (.handler "handler panicked: boom")), (2, shutdownOutcome),
        (1, shutdownOutcome), (3, shutdownOutcome)] := by
  have hrun : (ofThreads 0).steps? shutDownWhileRunning
      = some ⟨1, 1, false, [.answered, .answered, .answered, .answered],
        [(0, .failed (.handler "handler panicked: boom")), (2, shutdownOutcome),
          (1, shutdownOutcome), (3, shutdownOutcome)]⟩ := by
    decide +kernel
  exact ⟨_, hrun, (steps_accounted hrun).1, rfl, rfl⟩

end TaskGate

end Gatehouse.Worker
