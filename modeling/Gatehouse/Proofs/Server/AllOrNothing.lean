import Gatehouse.Proofs.Server.Closing

namespace Gatehouse.Server

open Config Net Worker

/-!
# All listeners or none

The owner of listeners is told to start and to stop, in any order, with any configuration, and on a
machine that may refuse any request. After each call it owns one open channel for each listener of
the configuration it started, or it owns nothing and every channel it had is closed. An address of a
closed channel may stay bound, but only while accept loops go on that did not end in time.

* `OwnerCall`, `Listeners.calls` — calls one after another, and the log of what they returned;
* `inForce` — the configuration that the log leaves in force;
* `Settled` — what an owner has open while a configuration is in force, or none is;
* `Outcome`, `Settled.outcome` — everything that a call can do to a settled owner;
* `Settled.next`, `settled_calls` — it settles again, and so after any number of calls;
* `calls_allOrNothing` — all of this, from an owner that was never called.
-/

/-! ### Calls -/

/-- A call on the owner of listeners. -/
inductive OwnerCall where
  | start (c : ServerConfig)
  | stop

namespace Listeners

/-- One call. -/
def call (m : Machine) (s : Listeners) : OwnerCall → Except ServerError Unit × Listeners × Machine
  | .start c => s.start m c
  | .stop => s.stop m

/-- Calls one after another, with the log of what they returned. -/
def calls (m : Machine) (s : Listeners) :
    List OwnerCall → List (OwnerCall × Except ServerError Unit) × Listeners × Machine
  | [] => ([], s, m)
  | first :: later =>
    let (result, s, m) := s.call m first
    let (log, s, m) := s.calls m later
    ((first, result) :: log, s, m)

end Listeners

/-- The configuration in force after a call, given the one in force before and what it returned. -/
def nextInForce (now : Option ServerConfig) :
    OwnerCall × Except ServerError Unit → Option ServerConfig
  | (.start c, .ok _) => some c
  | (.start _, .error _) => now
  | (.stop, _) => none

/-- The configuration that a log leaves in force: the one started last, unless stopped since. -/
def inForce (now : Option ServerConfig) (log : List (OwnerCall × Except ServerError Unit)) :
    Option ServerConfig :=
  log.foldl nextInForce now

/-! ### What is open between calls -/

/-- An owner between calls, on a machine that has gone on from a given one. With no configuration in
    force the owner is idle and has no channel: of the sockets only those from before have an owner.
    With a configuration in force its worker runs, each listener is served by an open channel, in
    order, and the sockets of these channels have come in addition. Apart from that nothing is bound
    but what accept loops hold that were waited for in vain. -/
inductive Settled (m₀ : Machine) : Option ServerConfig → Listeners → Machine → Prop where
  | idle {m : Machine} (later : m₀.Later m) (sockets : m.sockets = m₀.sockets) :
      Settled m₀ none .idle m
  | running {c : ServerConfig} {set : ListenerSet} {m : Machine} (later : m₀.Later m)
      (worker : set.worker.isRunning = true)
      (channels : List.Forall₂ (Serves m₀.names) c.listeners set.channels)
      (sockets : m.sockets = m₀.sockets ++ set.channels.map (·.socket)) :
      Settled m₀ (some c) ⟨some set⟩ m

/-- Everything that a call can do to an owner. -/
inductive Outcome (s : Listeners) (m : Machine) :
    OwnerCall → Except ServerError Unit → Listeners → Machine → Prop where
  /-- Every step of the start succeeds. -/
  | started {c : ServerConfig} {set : ListenerSet} {m' : Machine} (idle : s.current = none)
      (starts : Starts m c set m') : Outcome s m (.start c) (.ok ()) ⟨some set⟩ m'
  /-- A step of the start fails: no further step is taken, and what was open by then is closed. -/
  | brokenOff {c : ServerConfig} {channels : List Channel} {e : ServerError}
      {broken m' : Machine} (idle : s.current = none) (breaks : Breaks m c channels e broken)
      (closes : Closes broken channels m') (sockets : m'.sockets = m.sockets) :
      Outcome s m (.start c) (.error e) .idle m'
  /-- Something is running, and goes on as before. -/
  | alreadyRunning {c : ServerConfig} {set : ListenerSet} (running : s.current = some set) :
      Outcome s m (.start c) (.error (.lifecycle .alreadyRunning)) s m
  /-- Every channel is closed in time. -/
  | stopped {set : ListenerSet} {m' : Machine} (running : s.current = some set)
      (closes : Closes m set.channels m') (inTime : late m set.channels = []) :
      Outcome s m .stop (.ok ()) .idle m'
  /-- Every channel is closed, some of them late; the error joins theirs, in order. -/
  | stoppedLate {set : ListenerSet} {m' : Machine} (running : s.current = some set)
      (closes : Closes m set.channels m') (overtime : late m set.channels ≠ []) :
      Outcome s m .stop
        (.error (.stop ("; ".intercalate ((overdue m set.channels).map ServerError.message))))
        .idle m'
  /-- Nothing is running, and nothing happens. -/
  | nothingToStop (idle : s.current = none) : Outcome s m .stop (.ok ()) s m

variable {m₀ m m' : Machine} {now : Option ServerConfig} {s s' : Listeners}

/-- The bound addresses are those of the listeners in force, in order. -/
theorem Settled.addresses (h : Settled m₀ now s m) :
    List.Forall₂ (IsAddressOf m₀.names) (now.elim [] ServerConfig.listeners) s.addresses := by
  cases h with
  | idle later sockets => exact .nil
  | running later worker channels sockets =>
    show List.Forall₂ _ _ (List.map Channel.address _)
    rw [List.forall₂_map_right_iff]
    exact channels.imp fun _ _ serves => serves.address

theorem Settled.later (h : Settled m₀ now s m) : m₀.Later m := by
  cases h <;> assumption

/-- An owner with nothing open has no configuration in force. -/
theorem Settled.of_idle (h : Settled m₀ now s m) (idle : s.current = none) :
    now = none ∧ s = .idle ∧ m.sockets = m₀.sockets := by
  cases h with
  | idle later sockets => exact ⟨rfl, rfl, sockets⟩
  | running later worker channels sockets => cases idle

/-! ### One call -/

theorem Outcome.of_start_ok {c : ServerConfig} {set : ListenerSet}
    (h : ListenerSet.start m c = (.ok set, m')) :
    Outcome .idle m (.start c) (.ok ()) ⟨some set⟩ m' :=
  .started rfl (start_eq_ok_iff.1 h)

theorem Outcome.of_start_error {c : ServerConfig} {e : ServerError} (hm : m.WellNumbered)
    (h : ListenerSet.start m c = (.error e, m')) :
    Outcome .idle m (.start c) (.error e) .idle m' := by
  obtain ⟨channels, broken, breaks, rfl⟩ := start_eq_error_iff.1 h
  obtain ⟨hcloses, hsockets⟩ := breaks.closes hm
  exact .brokenOff rfl breaks hcloses hsockets

theorem Outcome.of_start_idle {c : ServerConfig} (hm : m.WellNumbered) :
    Outcome .idle m (.start c) (Listeners.idle.start m c).1 (Listeners.idle.start m c).2.1
      (Listeners.idle.start m c).2.2 := by
  obtain ⟨result, m', hstart⟩ : ∃ result m', ListenerSet.start m c = (result, m') := ⟨_, _, rfl⟩
  simp only [Listeners.start, Listeners.idle, hstart]
  cases result with
  | ok set => exact .of_start_ok hstart
  | error e => exact .of_start_error hm hstart

theorem Outcome.of_stop_running {set : ListenerSet} {others : List Socket} (hm : m.WellNumbered)
    (hup : ∀ channel ∈ set.channels, IsUp channel)
    (hsockets : m.sockets = others ++ set.channels.map (·.socket)) :
    Outcome ⟨some set⟩ m .stop (Listeners.stop m ⟨some set⟩).1 (Listeners.stop m ⟨some set⟩).2.1
      (Listeners.stop m ⟨some set⟩).2.2 := by
  have hcloses := closes_of_isUp hup hm hsockets
  simp only [Listeners.stop, ListenerSet.stop, errors_closeAll hup]
  by_cases hlate : late m set.channels = []
  · rw [overdue, hlate]
    exact .stopped rfl hcloses hlate
  · have hsome : overdue m set.channels ≠ [] := fun hnone => hlate (List.map_eq_nil_iff.1 hnone)
    rw [joinErrors]
    · exact .stoppedLate rfl hcloses hlate
    · exact hsome

/-- A call on a settled owner has one of the outcomes. -/
theorem Settled.outcome (h : Settled m₀ now s m) (hm : m.WellNumbered) (call : OwnerCall) :
    Outcome s m call (s.call m call).1 (s.call m call).2.1 (s.call m call).2.2 := by
  cases h with
  | idle later sockets =>
    cases call with
    | start c => exact .of_start_idle hm
    | stop => exact .nothingToStop rfl
  | running later worker channels sockets =>
    cases call with
    | start c => exact .alreadyRunning rfl
    | stop => exact .of_stop_running hm (isUp_of_serves channels) sockets

/-! ### Any number of calls -/

/-- An owner between calls, on a machine whose sockets have numbers of their own. -/
structure Consistent (m₀ : Machine) (now : Option ServerConfig) (s : Listeners) (m : Machine) :
    Prop where
  settled : Settled m₀ now s m
  wellNumbered : m.WellNumbered

theorem consistent_idle (hm : m.WellNumbered) : Consistent m none .idle m :=
  ⟨.idle (.refl m) rfl, hm⟩

/-- Once the channels of an owner are closed, it is idle and settled. -/
theorem Consistent.closed {set : ListenerSet} (h : Consistent m₀ now s m)
    (running : s.current = some set) (closes : Closes m set.channels m') :
    Consistent m₀ none .idle m' := by
  obtain ⟨hsettled, hm⟩ := h
  obtain rfl := closes.machine
  cases hsettled with
  | idle later sockets => cases running
  | running later worker channels sockets =>
    obtain rfl := Option.some.inj running
    obtain ⟨hsockets, hwell⟩ := givesBack_closeAll (isUp_of_serves channels) hm sockets
    exact ⟨.idle (later.trans closes.later) hsockets, hwell⟩

/-- Whatever a call does, the owner is settled afterwards. -/
theorem Consistent.next {call : OwnerCall} {result : Except ServerError Unit}
    (h : Consistent m₀ now s m) (hout : Outcome s m call result s' m') :
    Consistent m₀ (nextInForce now (call, result)) s' m' := by
  have hlater := h.settled.later
  cases hout with
  | @started c set _ idle starts =>
    obtain ⟨-, -, hsockets⟩ := h.settled.of_idle idle
    have hadds := starts.adds
    have hopen : m'.sockets = m₀.sockets ++ set.channels.map (·.socket) := by
      rw [hadds.sockets, hsockets]
    have hserves : List.Forall₂ (Serves m₀.names) c.listeners set.channels :=
      hlater.names ▸ starts.serves
    exact ⟨.running (hlater.trans hadds.later) starts.isRunning hserves hopen,
      hadds.wellNumbered h.wellNumbered⟩
  | @brokenOff c channels e broken _ idle breaks closes sockets =>
    -- What the start had opened by then is closed, so that the sockets are those of before.
    obtain ⟨rfl, -, hsockets⟩ := h.settled.of_idle idle
    have hbroken := breaks.adds
    obtain rfl := closes.machine
    have hwell := hbroken.wellNumbered h.wellNumbered
    exact ⟨.idle ((hlater.trans hbroken.later).trans closes.later) (sockets.trans hsockets),
      (givesBack_closeAll breaks.isUp hwell hbroken.sockets).2⟩
  | alreadyRunning running => exact h
  | stopped running closes inTime => exact h.closed running closes
  | stoppedLate running closes overtime => exact h.closed running closes
  | nothingToStop idle =>
    obtain ⟨rfl, -, -⟩ := h.settled.of_idle idle
    exact h

/-- After any number of calls, the owner is settled. -/
theorem Consistent.calls (h : Consistent m₀ now s m) (calls : List OwnerCall) :
    Consistent m₀ (inForce now (s.calls m calls).1) (s.calls m calls).2.1
      (s.calls m calls).2.2 := by
  induction calls generalizing now s m with
  | nil => exact h
  | cons first later ih => exact ih (h.next (h.settled.outcome h.wellNumbered first))

/-- After any calls on an owner, it has one open channel for each listener of the configuration it
    started last, in order, unless it was stopped since, and then it has none; the next call,
    whichever it is, does one of the things that an outcome describes. -/
theorem calls_allOrNothing (hm : m.WellNumbered) (calls : List OwnerCall) :
    let run := Listeners.idle.calls m calls
    let now := inForce none run.1
    let s := run.2.1
    let m' := run.2.2
    Settled m now s m' ∧
      List.Forall₂ (IsAddressOf m.names) (now.elim [] ServerConfig.listeners) s.addresses ∧
      ∀ call, Outcome s m' call (s.call m' call).1 (s.call m' call).2.1 (s.call m' call).2.2 := by
  intro run now s m'
  have hconsistent : Consistent m now s m' := (consistent_idle hm).calls calls
  exact ⟨hconsistent.settled, hconsistent.settled.addresses,
    hconsistent.settled.outcome hconsistent.wellNumbered⟩

/-- Two listeners on one address break the start off, one of them alone is opened, and a further
    start changes nothing. When it is stopped its accept loop goes on: the address stays bound, and
    can be bound again when the loop has let go of it. -/
theorem calls_allOrNothing_oneAddress :
    let m := { Machine.isolated with
      lingers := fun request => request = 11
      letGoBy := fun _ => 18 }
    let one := (ServerDraft.forMachine 0 1).addListener .standard
    let two := one.addListener .standard
    let inUse := ServerError.bind "0.0.0.0:8080: Address already in use (os error 98)"
    let late := "Failed to stop server: accept loop on 0.0.0.0:8080 did not stop in time"
    let calls : List OwnerCall := [.start two.config, .start one.config, .start two.config, .stop,
      .start one.config, .start one.config]
    let run := Listeners.idle.calls m calls
    m.WellNumbered ∧
      run.1.map (·.2) = [.error inUse, .ok (), .error (.lifecycle .alreadyRunning),
        .error (.stop late), .error inUse, .ok ()] ∧
      inForce none run.1 = some one.config ∧
      Settled m (inForce none run.1) run.2.1 run.2.2 := by
  have hm := Machine.wellNumbered_of_nil (m := { Machine.isolated with
    lingers := fun request => request = 11
    letGoBy := fun _ => 18 }) rfl rfl
  exact ⟨hm, rfl, rfl, (calls_allOrNothing hm _).1⟩

end Gatehouse.Server
