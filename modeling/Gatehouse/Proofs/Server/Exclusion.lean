import Gatehouse.Proofs.Runs
import Gatehouse.Server.Interleaving

namespace Gatehouse.Server

/-!
# One call at a time

Whatever the calls on a server and however their steps are interleaved, the lock is held by the one
call that has taken it and not given it back. Between these two steps nobody else changes the
server or the machine, so a call does its work as if it were alone.

* `Shared.Moves`, `Shared.step?_eq_some_iff` — everything that one step can do;
* `Shared.Exclusive` — the call inside is the one that holds the lock;
* `Shared.HasLock` — what has happened since a call took the lock;
* `Shared.Section`, `Shared.Section.alone` — from taking the lock to giving it back.
-/

/-- Whether a call has taken the lock and not given it back. -/
def Progress.isInside : Progress → Bool
  | .holding | .worked _ => true
  | .issued | .returned _ => false

/-- What a call is going to return, or has returned. -/
def Progress.reply? : Progress → Option Reply
  | .worked reply | .returned reply => some reply
  | .issued | .holding => none

/-- The call that a step is about, if it was issued before. -/
def Step.number? : Step → Option Nat
  | .issue _ => none
  | .acquire n | .work n | .release n => some n

namespace Shared

/-! ### One step -/

/-- Everything that one step can do. -/
inductive Moves (s : Shared) : Step → Shared → Prop where
  | issued (call : Call) : Moves s (.issue call) { s with calls := s.calls ++ [(call, .issued)] }
  | acquired {n : Nat} {call : Call} (waiting : s.calls[n]? = some (call, .issued))
      (free : s.holder = none) :
      Moves s (.acquire n) { s.advance n call .holding with holder := some n }
  | refused {n other : Nat} {call : Call} (waiting : s.calls[n]? = some (call, .issued))
      (held : s.holder = some other) (tries : call.isTransition = true) :
      Moves s (.acquire n) (s.advance n call (.returned .concurrent))
  | worked {n : Nat} {call : Call} (holding : s.calls[n]? = some (call, .holding)) :
      Moves s (.work n) ((s.perform call).2.advance n call (.worked (s.perform call).1))
  | released {n : Nat} {call : Call} {reply : Reply}
      (worked : s.calls[n]? = some (call, .worked reply)) :
      Moves s (.release n) { s.advance n call (.returned reply) with holder := none }

variable {s t : Shared} {step : Step} {n k : Nat} {call : Call}

theorem step?_eq_some_iff : s.step? step = some t ↔ s.Moves step t := by
  constructor
  · intro h
    cases step with
    | issue call =>
      obtain rfl := Option.some.inj h
      exact .issued call
    | acquire n =>
      simp only [step?] at h
      split at h
      · next hwaiting hfree =>
        obtain rfl := Option.some.inj h
        exact .acquired hwaiting hfree
      · next hwaiting hheld =>
        obtain ⟨htries, hmoved⟩ := Option.ite_none_right_eq_some.1 h
        obtain rfl := Option.some.inj hmoved
        exact .refused hwaiting hheld htries
      · cases h
    | work n =>
      simp only [step?] at h
      split at h
      · next hholding =>
        obtain rfl := Option.some.inj h
        exact .worked hholding
      · cases h
    | release n =>
      simp only [step?] at h
      split at h
      · next hworked =>
        obtain rfl := Option.some.inj h
        exact .released hworked
      · cases h
  · intro h
    cases h with
    | issued call => rfl
    | acquired waiting free => simp only [step?, waiting, free]
    | refused waiting held tries => simp only [step?, waiting, held, tries, if_true]
    | worked holding => simp only [step?, holding]
    | released worked => simp only [step?, worked]

/-- A run is a step followed by a run. -/
theorem steps?_cons {steps : List Step} :
    s.steps? (step :: steps) = some t ↔ ∃ next, s.Moves step next ∧ next.steps? steps = some t := by
  rw [steps?, Runs.foldlM_cons_eq_some_iff]
  simp only [step?_eq_some_iff, steps?]

/-- What every step keeps, a run keeps. -/
theorem kept_by_run {P : Shared → Prop} {steps : List Step}
    (hkept : ∀ {s step t}, P s → Moves s step t → P t) (h : P s)
    (hrun : s.steps? steps = some t) : P t :=
  Runs.kept_of_foldlM (fun hs hstep => hkept hs (step?_eq_some_iff.1 hstep)) h hrun

theorem steps?_append {first later : List Step} :
    s.steps? (first ++ later) = some t ↔
      ∃ next, s.steps? first = some next ∧ next.steps? later = some t :=
  Runs.foldlM_append_eq_some_iff

/-! ### Calls during a step -/

theorem calls_advance_self {old : Call × Progress} {p : Progress} (h : s.calls[n]? = some old) :
    (s.advance n call p).calls[n]? = some (call, p) := by
  obtain ⟨hlt, -⟩ := List.getElem?_eq_some_iff.1 h
  exact List.getElem?_set_self hlt

theorem calls_advance_of_ne {p : Progress} (h : k ≠ n) :
    (s.advance n call p).calls[k]? = s.calls[k]? :=
  List.getElem?_set_ne h.symm

@[simp] theorem calls_perform (s : Shared) (call : Call) : (s.perform call).2.calls = s.calls := by
  cases call <;> rfl

@[simp] theorem holder_perform (s : Shared) (call : Call) :
    (s.perform call).2.holder = s.holder := by
  cases call <;> rfl

theorem calls_advance_perform {p : Progress} {other : Call} :
    ((s.perform other).2.advance n call p).calls = (s.advance n call p).calls := by
  simp only [advance, calls_perform]

/-- The work of a call depends on server and machine only. -/
theorem perform_congr (hserver : t.server = s.server) (hmachine : t.machine = s.machine)
    (call : Call) :
    (t.perform call).1 = (s.perform call).1 ∧
      (t.perform call).2.server = (s.perform call).2.server ∧
      (t.perform call).2.machine = (s.perform call).2.machine := by
  cases call <;> simp [perform, hserver, hmachine]

/-- What a step did to a call, told from how far the call has come afterwards. -/
inductive CallMoves (s : Shared) (k : Nat) (call : Call) : Step → Progress → Prop where
  | kept {step : Step} {p : Progress} (before : s.calls[k]? = some (call, p)) :
      CallMoves s k call step p
  | issued : CallMoves s k call (.issue call) .issued
  | acquired (before : s.calls[k]? = some (call, .issued)) (free : s.holder = none) :
      CallMoves s k call (.acquire k) .holding
  | refused {other : Nat} (before : s.calls[k]? = some (call, .issued))
      (held : s.holder = some other) : CallMoves s k call (.acquire k) (.returned .concurrent)
  | worked (before : s.calls[k]? = some (call, .holding)) :
      CallMoves s k call (.work k) (.worked (s.perform call).1)
  | released {reply : Reply} (before : s.calls[k]? = some (call, .worked reply)) :
      CallMoves s k call (.release k) (.returned reply)

/-- A step that is about one call leaves the others where they were. -/
theorem callMoves_of_advance {other : Call} {old : Call × Progress} {p q : Progress}
    (hold : s.calls[n]? = some old) (hk : (s.advance n other q).calls[k]? = some (call, p))
    (hmove : CallMoves s n other step q) : CallMoves s k call step p := by
  by_cases hkn : k = n
  · subst hkn
    rw [calls_advance_self hold] at hk
    obtain ⟨rfl, rfl⟩ := Prod.mk.inj (Option.some.inj hk)
    exact hmove
  · rw [calls_advance_of_ne hkn] at hk
    exact .kept hk

theorem Moves.callMoves {p : Progress} (h : s.Moves step t) (hk : t.calls[k]? = some (call, p)) :
    CallMoves s k call step p := by
  cases h with
  | issued new =>
    rw [List.getElem?_append] at hk
    split at hk
    · exact .kept hk
    · obtain ⟨rfl, rfl⟩ := Prod.mk.inj (List.mem_singleton.1 (List.mem_of_getElem? hk))
      exact .issued
  | acquired waiting free => exact callMoves_of_advance waiting hk (.acquired waiting free)
  | refused waiting held tries => exact callMoves_of_advance waiting hk (.refused waiting held)
  | worked holding =>
    rw [calls_advance_perform] at hk
    exact callMoves_of_advance holding hk (.worked holding)
  | released worked => exact callMoves_of_advance worked hk (.released worked)

/-- A step that is not about a call leaves it where it was. -/
theorem Moves.kept {p : Progress} (h : s.Moves step t) (hk : s.calls[k]? = some (call, p))
    (hother : step.number? ≠ some k) : t.calls[k]? = some (call, p) := by
  have hne : ∀ n, step.number? = some n → k ≠ n := fun n hn hkn => hother (hkn ▸ hn)
  cases h with
  | issued new =>
    obtain ⟨hlt, -⟩ := List.getElem?_eq_some_iff.1 hk
    exact (List.getElem?_append_left hlt).trans hk
  | acquired waiting free => exact (calls_advance_of_ne (hne _ rfl)).trans hk
  | refused waiting held tries => exact (calls_advance_of_ne (hne _ rfl)).trans hk
  | worked holding =>
    rw [calls_advance_perform]
    exact (calls_advance_of_ne (hne _ rfl)).trans hk
  | released worked => exact (calls_advance_of_ne (hne _ rfl)).trans hk

/-- A call has returned, with this reply. -/
def Returned (s : Shared) (n : Nat) (call : Call) (reply : Reply) : Prop :=
  s.calls[n]? = some (call, .returned reply)

theorem Returned.unique {reply reply' : Reply} (h : s.Returned n call reply)
    (h' : s.Returned n call reply') : reply = reply' := by
  have hsame := Option.some.inj (h.symm.trans h')
  exact Progress.returned.inj (Prod.mk.inj hsame).2

/-- A call that has returned keeps its reply. -/
theorem Returned.move {reply : Reply} (h : s.Returned n call reply) (hmove : s.Moves step t) :
    t.Returned n call reply := by
  refine hmove.kept h fun hsame => ?_
  -- No step is about a call that has returned.
  cases hmove with
  | issued new => cases hsame
  | acquired waiting free => cases hsame; cases waiting.symm.trans h
  | refused waiting held tries => cases hsame; cases waiting.symm.trans h
  | worked holding => cases hsame; cases holding.symm.trans h
  | released worked => cases hsame; cases worked.symm.trans h

theorem Returned.run {reply : Reply} {steps : List Step} (h : s.Returned n call reply)
    (hrun : s.steps? steps = some t) : t.Returned n call reply :=
  kept_by_run (P := fun s => s.Returned n call reply) Returned.move h hrun

/-! ### Who holds the lock -/

/-- This call has taken the lock and not given it back. -/
def Holds (s : Shared) (n : Nat) (call : Call) : Prop :=
  ∃ p, s.calls[n]? = some (call, p) ∧ p.isInside = true

/-- The call with this number, whichever it is, has taken the lock and not given it back. -/
def IsInside (s : Shared) (n : Nat) : Prop := ∃ call, s.Holds n call

/-- The call inside is the one that holds the lock. -/
def Exclusive (s : Shared) : Prop := ∀ n, s.IsInside n ↔ s.holder = some n

theorem exclusive_ofServer (m : Net.Machine) (server : Server) : (ofServer m server).Exclusive := by
  intro n
  constructor
  · rintro ⟨call, p, hcall, -⟩
    cases hcall
  · intro hholder
    cases hholder

theorem isInside_congr (h : t.calls[k]? = s.calls[k]?) : t.IsInside k ↔ s.IsInside k := by
  simp only [IsInside, Holds, h]

theorem isInside_issue {new : Call} :
    { s with calls := s.calls ++ [(new, Progress.issued)] }.IsInside k ↔ s.IsInside k := by
  constructor
  · rintro ⟨call, p, hcall, hinside⟩
    cases (Moves.issued new).callMoves hcall with
    | kept before => exact ⟨call, p, before, hinside⟩
    | issued => cases hinside
  · rintro ⟨call, p, hcall, hinside⟩
    exact ⟨call, p, (Moves.issued new).kept hcall nofun, hinside⟩

theorem isInside_advance_self {old : Call × Progress} {p : Progress}
    (h : s.calls[n]? = some old) : (s.advance n call p).IsInside n ↔ p.isInside = true := by
  have hself : (s.advance n call p).calls[n]? = some (call, p) := calls_advance_self h
  constructor
  · rintro ⟨call', p', hcall, hinside⟩
    cases hself.symm.trans hcall
    exact hinside
  · intro hinside
    exact ⟨call, p, hself, hinside⟩

theorem isInside_advance_of_ne {p : Progress} (h : k ≠ n) :
    (s.advance n call p).IsInside k ↔ s.IsInside k :=
  isInside_congr (calls_advance_of_ne h)

/-- No step lets a second call in, and only the one inside gives the lock back. -/
theorem Exclusive.move (h : s.Exclusive) (hmove : s.Moves step t) : t.Exclusive := by
  intro k
  cases hmove with
  | issued new =>
    rw [isInside_issue]
    exact h k
  | @acquired n call waiting free =>
    show (s.advance n call .holding).IsInside k ↔ some n = some k
    by_cases hkn : k = n
    · subst hkn
      exact iff_of_true ((isInside_advance_self waiting).2 rfl) rfl
    · rw [isInside_advance_of_ne hkn, h k, free]
      exact iff_of_false nofun fun hsame => hkn (Option.some.inj hsame).symm
  | @refused n other call waiting held tries =>
    show (s.advance n call (.returned .concurrent)).IsInside k ↔ s.holder = some k
    by_cases hkn : k = n
    · subst hkn
      have houtside : ¬ s.IsInside k := by
        rintro ⟨call', p, hcall, hinside⟩
        cases hcall.symm.trans waiting
        cases hinside
      rw [isInside_advance_self waiting, ← h k]
      exact iff_of_false nofun houtside
    · rw [isInside_advance_of_ne hkn]
      exact h k
  | @worked n call holding =>
    have holding' : (s.perform call).2.calls[n]? = some (call, .holding) := by
      rwa [calls_perform]
    show IsInside _ k ↔ (s.perform call).2.holder = some k
    rw [holder_perform, ← h k]
    by_cases hkn : k = n
    · subst hkn
      exact iff_of_true ((isInside_advance_self holding').2 rfl) ⟨call, _, holding, rfl⟩
    · rw [isInside_advance_of_ne hkn]
      exact isInside_congr (by rw [calls_perform])
  | @released n call reply worked =>
    have hholder : s.holder = some n := (h n).1 ⟨call, _, worked, rfl⟩
    show (s.advance n call (.returned reply)).IsInside k ↔ none = some k
    by_cases hkn : k = n
    · subst hkn
      exact iff_of_false (fun hinside => nomatch (isInside_advance_self worked).1 hinside) nofun
    · rw [isInside_advance_of_ne hkn, h k, hholder]
      exact iff_of_false (fun hsame => hkn (Option.some.inj hsame).symm) nofun

/-- In a run, the call inside is always the one that holds the lock. -/
theorem Exclusive.run {steps : List Step} (h : s.Exclusive) (hrun : s.steps? steps = some t) :
    t.Exclusive :=
  kept_by_run Exclusive.move h hrun

/-! ### From taking the lock to giving it back -/

/-- Call `n` took the lock in `s`. Since then it has not given it back, and nothing has changed the
    server or the machine besides its own work, if it has done that. -/
inductive HasLock (s : Shared) (n : Nat) (call : Call) (t : Shared) : Prop where
  | holding (progress : t.calls[n]? = some (call, .holding)) (server : t.server = s.server)
      (machine : t.machine = s.machine)
  | worked (progress : t.calls[n]? = some (call, .worked (s.perform call).1))
      (server : t.server = (s.perform call).2.server)
      (machine : t.machine = (s.perform call).2.machine)

variable {s₀ : Shared}

theorem HasLock.isInside (h : HasLock s₀ n call s) : s.IsInside n := by
  cases h with
  | holding progress server machine => exact ⟨call, _, progress, rfl⟩
  | worked progress server machine => exact ⟨call, _, progress, rfl⟩

/-- What leaves server, machine and the call alone does not take the lock away. -/
theorem HasLock.frame (h : HasLock s₀ n call s) (hserver : t.server = s.server)
    (hmachine : t.machine = s.machine)
    (hkept : ∀ p, s.calls[n]? = some (call, p) → t.calls[n]? = some (call, p)) :
    HasLock s₀ n call t := by
  cases h with
  | holding progress server machine =>
    exact .holding (hkept _ progress) (hserver.trans server) (hmachine.trans machine)
  | worked progress server machine =>
    exact .worked (hkept _ progress) (hserver.trans server) (hmachine.trans machine)

/-- Whatever the others do, the call has the lock until it gives it back. -/
theorem HasLock.move (h : HasLock s₀ n call s) (hs : s.Exclusive) (hmove : s.Moves step t)
    (hkeeps : step ≠ .release n) : HasLock s₀ n call t := by
  have hholder : s.holder = some n := (hs n).1 h.isInside
  -- Whoever is inside is this call.
  have hinside : ∀ {k}, s.IsInside k → k = n := fun {k} hk =>
    Option.some.inj (((hs k).1 hk).symm.trans hholder)
  cases hmove with
  | issued new => exact h.frame rfl rfl fun p hp => (Moves.issued new).kept hp nofun
  | acquired waiting free => cases hholder.symm.trans free
  | @refused k other call' waiting held tries =>
    refine h.frame rfl rfl fun p hp => (Moves.refused waiting held tries).kept hp fun hsame => ?_
    obtain rfl := Option.some.inj hsame
    obtain ⟨call'', p', hcall, hp'⟩ := h.isInside
    cases waiting.symm.trans hcall
    cases hp'
  | @worked k call' holding =>
    obtain rfl := hinside ⟨call', _, holding, rfl⟩
    cases h with
    | worked progress server machine => cases holding.symm.trans progress
    | holding progress server machine =>
      cases holding.symm.trans progress
      obtain ⟨hreply, hserver, hmachine⟩ := perform_congr server machine call
      refine .worked ?_ hserver hmachine
      rw [← hreply, calls_advance_perform]
      exact calls_advance_self holding
  | @released k call' reply worked =>
    obtain rfl := hinside ⟨call', _, worked, rfl⟩
    exact absurd rfl hkeeps

theorem HasLock.run {steps : List Step} (h : HasLock s₀ n call s) (hs : s.Exclusive)
    (hrun : s.steps? steps = some t) (hkeeps : .release n ∉ steps) : HasLock s₀ n call t := by
  induction steps generalizing s with
  | nil =>
    obtain rfl := Option.some.inj hrun
    exact h
  | cons step steps ih =>
    obtain ⟨next, hmove, hlater⟩ := steps?_cons.1 hrun
    obtain ⟨hfirst, hrest⟩ := List.ne_and_not_mem_of_not_mem_cons hkeeps
    exact ih (h.move hs hmove hfirst.symm) (hs.move hmove) hlater hrest

/-- The time that a call spends under the lock: it takes the free lock, other calls take steps and
    it does its work, and it gives the lock back. -/
structure Section (s : Shared) (n : Nat) (call : Call) (s' : Shared) : Prop where
  free : s.holder = none
  waiting : s.calls[n]? = some (call, .issued)
  steps : ∃ between, .release n ∉ between ∧
    s.steps? (.acquire n :: between ++ [.release n]) = some s'

/-- Under the lock a call does its work as if it were alone. -/
theorem Section.alone {s' : Shared} (h : s.Section n call s') (hs : s.Exclusive) :
    s'.Returned n call (s.perform call).1 ∧
      s'.server = (s.perform call).2.server ∧ s'.machine = (s.perform call).2.machine := by
  obtain ⟨free, waiting, between, hkeeps, hrun⟩ := h
  rw [List.cons_append, steps?_cons] at hrun
  obtain ⟨a, htaken, hrun⟩ := hrun
  obtain ⟨b, hbetween, hrun⟩ := steps?_append.1 hrun
  obtain ⟨c, hgiven, hlast⟩ := steps?_cons.1 hrun
  obtain rfl := Option.some.inj hlast
  have hfirst : HasLock s n call a := by
    cases htaken with
    | acquired waiting' free' =>
      cases waiting.symm.trans waiting'
      exact .holding (calls_advance_self waiting) rfl rfl
    | refused waiting' held tries => cases free.symm.trans held
  have hlock := hfirst.run (hs.move htaken) hbetween hkeeps
  cases hgiven with
  | released worked =>
    cases hlock with
    | holding progress server machine => cases progress.symm.trans worked
    | worked progress server machine =>
      cases progress.symm.trans worked
      exact ⟨calls_advance_self worked, server, machine⟩

end Shared

end Gatehouse.Server
