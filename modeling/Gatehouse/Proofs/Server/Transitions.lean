import Gatehouse.Proofs.Server.AllOrNothing
import Gatehouse.Proofs.Server.Exclusion

namespace Gatehouse.Server

open Config Net

/-!
# The lifecycle under overlapping calls

A server in use by any number of calls, on a machine that may refuse any request. The state is
changed under the lock only, by a start or a stop that runs to its end there, and what is open
follows the state.

* `Effect`, `Shared.Sound.effect_perform` — everything that a call can do while it has the lock;
* `Forward` — the moves of the state;
* `Shared.Sound`, `Shared.Sound.run` — what holds between any two steps;
* `Shared.Orderly`, `Shared.orderly_of_run` — what follows for those who call.
-/

/-- What a server has open. -/
def listeners (s : Server) : Listeners :=
  match s.lifecycle with
  | .running set => ⟨some set⟩
  | _ => .idle

/-- The configuration in force: that of the server while it runs, and none otherwise. -/
def serving (s : Server) : Option ServerConfig :=
  match s.lifecycle with
  | .running _ => some s.config
  | _ => none

/-! ### What a call does under the lock -/

/-- Everything that a call can do while it has the lock. -/
inductive Effect (s : Server) (m : Machine) : Call → Reply → Server → Machine → Prop where
  /-- The server was not started, and every step of the start succeeds. -/
  | started {set : ListenerSet} {m' : Machine} (before : s.lifecycle = .notStarted)
      (opens : Outcome .idle m (.start s.config) (.ok ()) ⟨some set⟩ m') :
      Effect s m .start (.done (.ok ())) { s with lifecycle := .running set } m'
  /-- The server was not started, a step of the start fails, and what was open by then is
      closed. -/
  | startFailed {e : ServerError} {m' : Machine} (before : s.lifecycle = .notStarted)
      (fails : Outcome .idle m (.start s.config) (.error e) .idle m') :
      Effect s m .start (.done (.error e)) s m'
  | alreadyRunning (before : s.state = .running) :
      Effect s m .start (.done (.error (.lifecycle .alreadyRunning))) s m
  | alreadyStopped (before : s.state = .stopped) :
      Effect s m .start (.done (.error (.lifecycle .alreadyStopped))) s m
  /-- The server was running; whether or not every channel is closed in time, it is stopped. -/
  | stopped {set : ListenerSet} {result : Except ServerError Unit} {m' : Machine}
      (before : s.lifecycle = .running set)
      (closes : Outcome ⟨some set⟩ m .stop result .idle m') :
      Effect s m .stop (.done result) { s with lifecycle := .stopped } m'
  | nothingToStop (before : s.state ≠ .running) : Effect s m .stop (.done (.ok ())) s m
  | state : Effect s m .state (.state s.state) s m
  | addresses : Effect s m .addresses (.addresses s.addresses) s m

/-- The moves of the state in one step. -/
inductive Forward : ServerState → ServerState → Prop where
  | same (state : ServerState) : Forward state state
  | start : Forward .notStarted .running
  | stop : Forward .running .stopped

theorem Forward.rank_le {before after : ServerState} (h : Forward before after) :
    before.rank ≤ after.rank := by
  cases h with
  | same state => exact Nat.le_refl _
  | start => decide
  | stop => decide

/-- A server that was started stays so. -/
theorem Forward.ne_notStarted {before after : ServerState} (h : Forward before after)
    (hbefore : before ≠ .notStarted) : after ≠ .notStarted := by
  cases h with
  | same state => exact hbefore
  | start => exact nofun
  | stop => exact nofun

section Effects

variable {m₀ m m' : Machine} {s s' : Server} {call : Call} {reply : Reply}

theorem effect_start (hm : m.WellNumbered) :
    Effect s m .start (.done (s.start m).1) (s.start m).2.1 (s.start m).2.2 := by
  obtain ⟨c, lifecycle⟩ := s
  cases lifecycle with
  | running set => exact .alreadyRunning rfl
  | stopped => exact .alreadyStopped rfl
  | notStarted =>
    obtain ⟨result, m', hstart⟩ : ∃ result m', ListenerSet.start m c = (result, m') := ⟨_, _, rfl⟩
    simp only [start, hstart]
    cases result with
    | ok set => exact .started rfl (.of_start_ok hstart)
    | error e => exact .startFailed rfl (.of_start_error hm hstart)

theorem effect_stop (h : Consistent m₀ s.serving s.listeners m) :
    Effect s m .stop (.done (s.stop m).1) (s.stop m).2.1 (s.stop m).2.2 := by
  obtain ⟨c, lifecycle⟩ := s
  cases lifecycle with
  | notStarted => exact .nothingToStop nofun
  | stopped => exact .nothingToStop nofun
  | running set => exact .stopped rfl (h.settled.outcome h.wellNumbered .stop)

/-- What is open follows the state. -/
theorem Effect.consistent (heffect : Effect s m call reply s' m')
    (h : Consistent m₀ s.serving s.listeners m) : Consistent m₀ s'.serving s'.listeners m' := by
  obtain ⟨c, lifecycle⟩ := s
  cases heffect with
  | started before opens => cases before; exact h.next opens
  | startFailed before fails => cases before; exact h.next fails
  | alreadyRunning before => exact h
  | alreadyStopped before => exact h
  | stopped before closes => cases before; exact h.next closes
  | nothingToStop before => exact h
  | state => exact h
  | addresses => exact h

theorem Effect.config (h : Effect s m call reply s' m') : s'.config = s.config := by
  cases h <;> rfl

theorem Effect.forward (h : Effect s m call reply s' m') : Forward s.state s'.state := by
  obtain ⟨c, lifecycle⟩ := s
  cases h with
  | started before opens => cases before; exact .start
  | stopped before closes => cases before; exact .stop
  | _ => exact .same _

/-- A start that succeeds is one that found the server not started. -/
theorem Effect.start_ok (h : Effect s m .start (.done (.ok ())) s' m') :
    s.state = .notStarted ∧ s'.state = .running := by
  cases h with
  | started before opens => exact ⟨congrArg Lifecycle.state before, rfl⟩

/-- A start that fails leaves the server as it was, and no socket with an owner that had none
    before. -/
theorem Effect.start_error {e : ServerError} (h : Effect s m .start (.done (.error e)) s' m') :
    s' = s ∧ m'.sockets = m.sockets ∧ m.Later m' := by
  cases h with
  | alreadyRunning before => exact ⟨rfl, rfl, .refl m⟩
  | alreadyStopped before => exact ⟨rfl, rfl, .refl m⟩
  | startFailed before fails =>
    cases fails with
    | brokenOff idle breaks closes sockets =>
      exact ⟨rfl, sockets, breaks.adds.later.trans closes.later⟩
    | alreadyRunning running => exact ⟨rfl, rfl, .refl m⟩

/-- What a call returns after it had the lock is never that it did not get it. -/
theorem Effect.ne_concurrent (h : Effect s m call reply s' m') : reply ≠ .concurrent := by
  cases h with
  | startFailed before fails =>
    intro hsame
    cases hsame
    cases fails with
    | brokenOff idle breaks closes sockets => exact breaks.ne_lifecycle _ rfl
  | stopped before closes => cases closes <;> exact nofun
  | _ => exact nofun

end Effects

/-! ### What holds between any two steps -/

namespace Shared

/-- A start that has done its work, or has returned, with success. -/
def Succeeded (s : Shared) (n : Nat) : Prop :=
  ∃ p, s.calls[n]? = some (.start, p) ∧ p.reply? = some (.done (.ok ()))

/-- What holds between any two steps of calls on a server with this configuration, if it was first
    used on this machine. -/
structure Sound (m : Machine) (c : ServerConfig) (s : Shared) : Prop where
  exclusive : s.Exclusive
  config : s.server.config = c
  consistent : Consistent m s.server.serving s.server.listeners s.machine
  honest : ∀ (n : Nat) (call : Call) (reply : Reply),
    s.calls[n]? = some (call, .worked reply) → reply ≠ .concurrent
  succeeded : ∀ n, s.Succeeded n → s.server.state ≠ .notStarted
  once : ∀ i j, s.Succeeded i → s.Succeeded j → i = j

variable {m : Machine} {c : ServerConfig} {s t : Shared} {step : Step} {n : Nat} {call : Call}

theorem sound_ofServer (hm : m.WellNumbered) (c : ServerConfig) :
    Sound m c (ofServer m (.ofConfig c)) where
  exclusive := exclusive_ofServer m (.ofConfig c)
  config := rfl
  consistent := consistent_idle hm
  honest _ _ _ h := nomatch h
  succeeded _ h := nomatch h
  once _ _ h := nomatch h

theorem Sound.effect_perform (h : s.Sound m c) (call : Call) :
    Effect s.server s.machine call (s.perform call).1 (s.perform call).2.server
      (s.perform call).2.machine := by
  cases call with
  | start => exact effect_start h.consistent.wellNumbered
  | stop => exact effect_stop h.consistent
  | state => exact .state
  | addresses => exact .addresses

/-- A step leaves server and machine alone, or is the work of a call. -/
theorem Sound.effect_move (h : s.Sound m c) (hmove : s.Moves step t) :
    (t.server = s.server ∧ t.machine = s.machine) ∨
      ∃ call reply, Effect s.server s.machine call reply t.server t.machine := by
  cases hmove with
  | issued new => exact .inl ⟨rfl, rfl⟩
  | acquired waiting free => exact .inl ⟨rfl, rfl⟩
  | refused waiting held tries => exact .inl ⟨rfl, rfl⟩
  | worked holding => exact .inr ⟨_, _, h.effect_perform _⟩
  | released worked => exact .inl ⟨rfl, rfl⟩

/-- A step moves the state one place forward, if it moves it. -/
theorem Sound.forward (h : s.Sound m c) (hmove : s.Moves step t) :
    Forward s.server.state t.server.state := by
  rcases h.effect_move hmove with ⟨hserver, -⟩ | ⟨call, reply, heffect⟩
  · rw [hserver]
    exact .same _
  · exact heffect.forward

/-- A start that succeeds in a step finds the server not started and leaves it running. -/
theorem Sound.succeeded_move (h : s.Sound m c) (hmove : s.Moves step t) (hn : t.Succeeded n) :
    s.Succeeded n ∨
      step = .work n ∧ s.server.state = .notStarted ∧ t.server.state = .running := by
  obtain ⟨p, hcall, hreply⟩ := hn
  -- The reply of a start that succeeds can come from its own work only.
  cases hmove.callMoves hcall with
  | kept before => exact .inl ⟨p, before, hreply⟩
  | issued => cases hreply
  | acquired before free => cases hreply
  | refused before held => cases hreply
  | released before => exact .inl ⟨_, before, hreply⟩
  | worked before =>
    refine .inr ⟨rfl, ?_⟩
    have heffect := h.effect_perform .start
    rw [Option.some.inj hreply] at heffect
    cases hmove with
    | worked holding =>
      cases before.symm.trans holding
      exact heffect.start_ok

theorem Sound.move (h : s.Sound m c) (hmove : s.Moves step t) : t.Sound m c where
  exclusive := h.exclusive.move hmove
  config := by
    rcases h.effect_move hmove with ⟨hserver, -⟩ | ⟨call, reply, heffect⟩
    · rw [hserver, h.config]
    · rw [heffect.config, h.config]
  consistent := by
    rcases h.effect_move hmove with ⟨hserver, hmachine⟩ | ⟨call, reply, heffect⟩
    · rw [hserver, hmachine]
      exact h.consistent
    · exact heffect.consistent h.consistent
  honest := by
    intro n call reply hcall
    cases hmove.callMoves hcall with
    | kept before => exact h.honest n call reply before
    | worked before => exact (h.effect_perform call).ne_concurrent
  succeeded := by
    intro n hn
    rcases h.succeeded_move hmove hn with hbefore | ⟨-, -, hrunning⟩
    · exact (h.forward hmove).ne_notStarted (h.succeeded n hbefore)
    · rw [hrunning]
      exact nofun
  once := by
    -- Before a start succeeds, the server is not started, and so no other has succeeded by then.
    intro i j hi hj
    rcases h.succeeded_move hmove hi with hi | ⟨rfl, hfirst, -⟩
    · rcases h.succeeded_move hmove hj with hj | ⟨-, hfirst, -⟩
      · exact h.once i j hi hj
      · exact absurd hfirst (h.succeeded i hi)
    · rcases h.succeeded_move hmove hj with hj | ⟨hsame, -, -⟩
      · exact absurd hfirst (h.succeeded j hj)
      · exact Step.work.inj hsame

theorem Sound.run {steps : List Step} (h : s.Sound m c) (hrun : s.steps? steps = some t) :
    t.Sound m c :=
  kept_by_run Sound.move h hrun

/-- The state never moves back. -/
theorem Sound.rank_le {steps : List Step} (h : s.Sound m c) (hrun : s.steps? steps = some t) :
    s.server.state.rank ≤ t.server.state.rank := by
  have hkept : ∀ {t step u}, t.Sound m c ∧ s.server.state.rank ≤ t.server.state.rank →
      Moves t step u → u.Sound m c ∧ s.server.state.rank ≤ u.server.state.rank :=
    fun ⟨ht, hle⟩ hmove => ⟨ht.move hmove, Nat.le_trans hle (ht.forward hmove).rank_le⟩
  exact (kept_by_run hkept ⟨h, Nat.le_refl _⟩ hrun).2

/-- A start under the lock succeeds if the server was not started and every step succeeds. -/
theorem perform_start_of_starts {set : ListenerSet} {m' : Machine}
    (hstate : s.server.state = .notStarted) (hstarts : Starts s.machine s.server.config set m') :
    (s.perform .start).1 = .done (.ok ()) := by
  have hstart := start_of_starts hstarts
  show Reply.done (s.server.start s.machine).1 = _
  generalize s.server = server at hstate hstart
  obtain ⟨c, lifecycle⟩ := server
  cases lifecycle with
  | running set => cases hstate
  | stopped => cases hstate
  | notStarted => simp only [start, hstart]

/-- A step that gives a call the reply that another transition is in progress does nothing else.
    It is an attempt to take the lock while another call has it. -/
theorem Sound.concurrent_move (h : s.Sound m c) (hmove : s.Moves step t)
    (hafter : t.Returned n call .concurrent) (hbefore : ¬ s.Returned n call .concurrent) :
    s.calls[n]? = some (call, .issued) ∧ (∃ other, s.IsInside other) ∧
      t = s.advance n call (.returned .concurrent) := by
  -- The reply is new, and it is not that of a call that was inside.
  cases hmove.callMoves hafter with
  | kept before => exact absurd before hbefore
  | released before => exact absurd rfl (h.honest n call _ before)
  | @refused other before held =>
    refine ⟨before, ⟨other, (h.exclusive other).2 held⟩, ?_⟩
    cases hmove with
    | acquired waiting free => cases held.symm.trans free
    | refused waiting held tries =>
      cases before.symm.trans waiting
      rfl

/-- A server with a listener has addresses precisely while it runs. -/
theorem Sound.addresses (h : s.Sound m c) (hc : c.listeners ≠ []) :
    s.server.addresses ≠ [] ↔ s.server.state = .running := by
  obtain ⟨⟨config, lifecycle⟩, machine, holder, calls⟩ := s
  obtain rfl : config = c := h.config
  cases lifecycle with
  | notStarted => exact iff_of_false (fun hne => hne rfl) nofun
  | stopped => exact iff_of_false (fun hne => hne rfl) nofun
  | running set =>
    cases h.consistent.settled with
    | running later worker channels sockets =>
      refine iff_of_true (fun hnone => hc ?_) rfl
      have hchannels : set.channels = [] := List.map_eq_nil_iff.1 hnone
      rw [hchannels] at channels
      exact List.forall₂_nil_right_iff.1 channels

/-! ### What follows for those who call -/

/-- The lifecycle of a server in use, as those who call it see it. -/
structure Orderly (m : Machine) (c : ServerConfig) (s : Shared) : Prop where
  /-- A step leaves the state as it is, or moves it one place forward, and so it never comes
      back. -/
  forward : ∀ step t, s.step? step = some t → Forward s.server.state t.server.state
  rank_le : ∀ steps t, s.steps? steps = some t → s.server.state.rank ≤ t.server.state.rank
  /-- Of all calls so far, at most one start returned with success, and replies are final. -/
  once : ∀ i j, s.Returned i .start (.done (.ok ())) → s.Returned j .start (.done (.ok ())) → i = j
  kept : ∀ steps t n call reply, s.steps? steps = some t → s.Returned n call reply →
    t.Returned n call reply
  /-- What a call that takes the lock does, until it gives the lock back, is one of the effects on
      the server as it found it, whichever steps the others take meanwhile. -/
  effect : ∀ n call s', s.Section n call s' → ∃ reply, s'.Returned n call reply ∧
    Effect s.server s.machine call reply s'.server s'.machine
  /-- A start that takes the lock and fails leaves the server as it was, with no listener open that
      was not open before. Of the sockets it bound none is left, unless accept loops were waited for
      in vain. -/
  failed : ∀ n e s', s.Section n .start s' → s'.Returned n .start (.done (.error e)) →
    s'.server = s.server ∧ s'.machine.sockets = s.machine.sockets ∧ s.machine.Later s'.machine
  /-- Whatever has failed so far, a start that takes the lock of a server that was not started
      returns with success if every step of it succeeds. -/
  restart : ∀ n s' set m', s.Section n .start s' → s.server.state = .notStarted →
    Starts s.machine c set m' → s'.Returned n .start (.done (.ok ()))
  /-- A call learns that another transition is in progress while another call has the lock, and in
      a step that does nothing else. -/
  concurrent : ∀ step t n call, s.step? step = some t → t.Returned n call .concurrent →
    ¬ s.Returned n call .concurrent → s.calls[n]? = some (call, .issued) ∧
      (∃ other, s.IsInside other) ∧ t = s.advance n call (.returned .concurrent)
  /-- What is open follows the state. -/
  config : s.server.config = c
  settled : Settled m s.server.serving s.server.listeners s.machine
  addresses : s.server.addresses ≠ [] ↔ s.server.state = .running

/-- Whatever calls are made on a server and however their steps are interleaved, its lifecycle is
    in order. -/
theorem orderly_of_run {d : ServerDraft} {steps : List Step} (hd : d.build = .ok c)
    (hm : m.WellNumbered) (hrun : (ofServer m (.ofConfig c)).steps? steps = some s) :
    s.Orderly m c := by
  have hs : s.Sound m c := (sound_ofServer hm c).run hrun
  have heffect : ∀ n call s', s.Section n call s' → s'.Returned n call (s.perform call).1 ∧
      Effect s.server s.machine call (s.perform call).1 s'.server s'.machine := by
    intro n call s' hsection
    obtain ⟨hreply, hserver, hmachine⟩ := hsection.alone hs.exclusive
    rw [hserver, hmachine]
    exact ⟨hreply, hs.effect_perform call⟩
  exact {
    forward := fun step t hstep => hs.forward (step?_eq_some_iff.1 hstep)
    rank_le := fun steps t hrun => hs.rank_le hrun
    once := fun i j hi hj => hs.once i j ⟨_, hi, rfl⟩ ⟨_, hj, rfl⟩
    kept := fun steps t n call reply hrun h => h.run hrun
    effect := fun n call s' hsection => ⟨_, heffect n call s' hsection⟩
    failed := by
      intro n e s' hsection hfailed
      obtain ⟨hreply, hstart⟩ := heffect n .start s' hsection
      rw [hreply.unique hfailed] at hstart
      exact hstart.start_error
    restart := by
      intro n s' set m' hsection hstate hstarts
      obtain ⟨hreply, -⟩ := heffect n .start s' hsection
      rw [← hs.config] at hstarts
      rwa [perform_start_of_starts hstate hstarts] at hreply
    concurrent := fun step t n call hstep hafter hbefore =>
      hs.concurrent_move (step?_eq_some_iff.1 hstep) hafter hbefore
    config := hs.config
    settled := hs.consistent.settled
    addresses := hs.addresses (ServerDraft.listeners_ne_nil hd) }

/-- A stop comes while a start is under way and is turned away, the start fails because the port is
    taken, and the next one succeeds. -/
theorem orderly_of_run_taken :
    let m := { Machine.isolated with
      refuses := fun request _ => if request = 3 then some .inUse else none }
    let d := (ServerDraft.forMachine 0 1).addListener .standard
    let steps := parked .start [.stop] ++ alone 2 .start
    m.WellNumbered ∧ d.build = .ok d.config ∧
      ∃ s, (ofServer m (.ofConfig d.config)).steps? steps = some s ∧
        s.Returned 0 .start
          (.done (.error (.bind "0.0.0.0:8080: Address already in use (os error 98)"))) ∧
        s.Returned 1 .stop .concurrent ∧ s.Returned 2 .start (.done (.ok ())) ∧
        s.Orderly m d.config := by
  intro m d steps
  have hm : m.WellNumbered := Machine.wellNumbered_of_nil rfl rfl
  have hd : d.build = .ok d.config := rfl
  obtain ⟨s, hrun, hfirst, hsecond, hthird⟩ :
      ∃ s, (ofServer m (.ofConfig d.config)).steps? steps = some s ∧
        s.Returned 0 .start
          (.done (.error (.bind "0.0.0.0:8080: Address already in use (os error 98)"))) ∧
        s.Returned 1 .stop .concurrent ∧ s.Returned 2 .start (.done (.ok ())) :=
    ⟨_, rfl, rfl, rfl, rfl⟩
  exact ⟨hm, hd, s, hrun, hfirst, hsecond, hthird, orderly_of_run hd hm hrun⟩

end Shared

end Gatehouse.Server
