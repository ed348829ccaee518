import Gatehouse.Proofs.Server.Exclusion

namespace Gatehouse.Server.Shared

open Config Net

/-!
# Being turned away

A start or a stop that finds the lock held is turned away, and told that another transition is in
progress. But calls that only look at the server hold the same lock while they look, so that what
it is told need not be the case.

* `TurnsAwayOnlyDuringTransitions`, `not_turnsAwayOnlyDuringTransitions` — a stop is turned away
  while nobody but a reader of the state has the lock;
* `turnedAway_iff` — a start or a stop is turned away precisely while another call, whichever it
  is, has the lock.
-/

/-- The step in which a start or a stop tries the lock and is turned away. -/
def TurnsAway (s : Shared) (n : Nat) (call : Call) : Prop :=
  s.step? (.acquire n) = some (s.advance n call (.returned .concurrent))

/-- A start or a stop is turned away only while another start or stop has the lock. -/
def TurnsAwayOnlyDuringTransitions : Prop :=
  ∀ (m : Machine) (c : ServerConfig) (steps : List Step) (s : Shared) (n : Nat) (call : Call),
    (ofServer m (.ofConfig c)).steps? steps = some s → s.calls[n]? = some (call, .issued) →
    s.TurnsAway n call → ∃ k other, k ≠ n ∧ s.Holds k other ∧ other.isTransition = true

/-- A server is running, somebody reads its state, and a stop comes while they do. -/
theorem not_turnsAwayOnlyDuringTransitions : ¬ TurnsAwayOnlyDuringTransitions := by
  intro h
  let c := ((ServerDraft.forMachine 0 1).addListener .standard).config
  let steps := alone 0 .start ++ [.issue .state, .acquire 1, .issue .stop]
  obtain ⟨s, hrun, hcalls, hholder⟩ :
      ∃ s, (ofServer .isolated (.ofConfig c)).steps? steps = some s ∧
        s.calls = [(.start, .returned (.done (.ok ()))), (.state, .holding), (.stop, .issued)] ∧
        s.holder = some 1 :=
    ⟨_, rfl, rfl, rfl⟩
  have hwaiting : s.calls[2]? = some (.stop, .issued) := by rw [hcalls]; rfl
  have haway : s.TurnsAway 2 .stop := by
    rw [TurnsAway, step?_eq_some_iff]
    exact .refused hwaiting hholder rfl
  obtain ⟨k, other, hk, ⟨p, hcall, hinside⟩, htransition⟩ :=
    h .isolated c steps s 2 .stop hrun hwaiting haway
  rw [hcalls] at hcall
  -- The start has returned, the reader is no transition, and the stop itself does not count.
  match k with
  | 0 => cases hcall; cases hinside
  | 1 => cases hcall; cases htransition
  | 2 => exact hk rfl
  | k + 3 => cases hcall

variable {m : Machine} {server : Server} {steps : List Step} {s : Shared} {n : Nat} {call : Call}

/-- A start or a stop is turned away precisely while another call has the lock. -/
theorem turnedAway_iff (hrun : (ofServer m server).steps? steps = some s)
    (hwaiting : s.calls[n]? = some (call, .issued)) (htries : call.isTransition = true) :
    s.TurnsAway n call ↔ ∃ k other, k ≠ n ∧ s.Holds k other := by
  have hexclusive : s.Exclusive := (exclusive_ofServer m server).run hrun
  rw [TurnsAway, step?_eq_some_iff]
  constructor
  · intro haway
    have hafter : (s.advance n call (.returned .concurrent)).Returned n call .concurrent :=
      calls_advance_self hwaiting
    cases haway.callMoves hafter with
    | kept before => cases hwaiting.symm.trans before
    | @refused k before held =>
      obtain ⟨other, hholds⟩ := (hexclusive k).2 held
      refine ⟨k, other, ?_, hholds⟩
      rintro rfl
      obtain ⟨p, hcall, hinside⟩ := hholds
      cases hwaiting.symm.trans hcall
      cases hinside
  · rintro ⟨k, other, -, hholds⟩
    have hheld : s.holder = some k := (hexclusive k).1 ⟨other, hholds⟩
    exact .refused hwaiting hheld htries

/-- A stop that comes while a start is under way is turned away. -/
theorem turnedAway_iff_parked :
    let c := ((ServerDraft.forMachine 0 1).addListener .standard).config
    ∃ s, (ofServer .isolated (.ofConfig c)).steps? [.issue .start, .acquire 0, .issue .stop]
        = some s ∧ s.calls[1]? = some (.stop, .issued) ∧ Call.stop.isTransition = true ∧
      s.TurnsAway 1 .stop := by
  intro c
  obtain ⟨s, hrun, hwaiting, hholds⟩ :
      ∃ s, (ofServer .isolated (.ofConfig c)).steps? [.issue .start, .acquire 0, .issue .stop]
          = some s ∧ s.calls[1]? = some (.stop, .issued) ∧ s.Holds 0 .start :=
    ⟨_, rfl, rfl, .holding, rfl, rfl⟩
  exact ⟨s, hrun, hwaiting, rfl,
    (turnedAway_iff hrun hwaiting rfl).2 ⟨0, .start, Nat.zero_ne_one, hholds⟩⟩

end Gatehouse.Server.Shared
