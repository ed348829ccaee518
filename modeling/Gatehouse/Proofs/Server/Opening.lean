import Gatehouse.Proofs.Net.Sockets
import Gatehouse.Server.Listeners

namespace Gatehouse.Server

open Config Net Worker

/-!
# Opening listeners

The start of a set of listeners is described step by step, each step together with those that had
to succeed before it, and without reference to how the steps are nested in the program.

* `Opens`, `Fails` — one listener is opened, or its first step to fail is this one;
* `OpensAll` — listeners are opened one after another;
* `Starts`, `Breaks` — a start succeeds, or breaks off at this step with these channels open;
* `start_eq_ok_iff`, `start_eq_error_iff` — the start does precisely this, and in the second case
  closes these channels;
* `Breaks.ne_lifecycle` — no step fails because of the lifecycle;
* `OpensAll.adds`, `OpensAll.serves` — what opening listeners leaves behind.
-/

/-! ### One listener -/

/-- Codec, TLS, address and socket of a listener are in order, and it is opened. -/
inductive Opens (c : ServerConfig) (m : Machine) (l : Listener) : Channel → Machine → Prop where
  | opened {asked : SocketAddress} {s : Socket} {m' : Machine}
      (codec : checkCodec c l.protocol = .ok ()) (tls : checkTls l = .ok ())
      (address : l.address (m.names m.requests) = .ok asked)
      (socket : m.asked.bind asked = (.ok s, m')) :
      Opens c m l ⟨s, .ofThreads c.ioThreads, true, true⟩ m'

/-- The first step of a listener that fails, its error, and the machine it leaves behind. -/
inductive Fails (c : ServerConfig) (m : Machine) (l : Listener) : ServerError → Machine → Prop where
  | codec {fault : ListenerFault} (codec : checkCodec c l.protocol = .error fault) :
      Fails c m l fault.error m
  | tls {e : ServerError} (codec : checkCodec c l.protocol = .ok ())
      (tls : checkTls l = .error e) : Fails c m l e m
  | address {e : ServerError} (codec : checkCodec c l.protocol = .ok ())
      (tls : checkTls l = .ok ()) (address : l.address (m.names m.requests) = .error e) :
      Fails c m l e m.asked
  | socket {asked : SocketAddress} {fault : BindFault} {m' : Machine}
      (codec : checkCodec c l.protocol = .ok ()) (tls : checkTls l = .ok ())
      (address : l.address (m.names m.requests) = .ok asked)
      (socket : m.asked.bind asked = (.error fault, m')) :
      Fails c m l (.bind (asked.text ++ ": " ++ fault.message)) m'

section Listener

variable {c : ServerConfig} {m m' : Machine} {w : Worker} {l : Listener}

/-- Once codec and TLS are in order, what is left is the address and the socket. -/
theorem openListener_eq (hw : w.isRunning = true) (codec : checkCodec c l.protocol = .ok ())
    (tls : checkTls l = .ok ()) :
    openListener m w c l = match l.address (m.names m.requests) with
      | .error e => (.error e, m.asked)
      | .ok asked => match m.asked.bind asked with
        | (.error fault, m') => (.error (.bind (asked.text ++ ": " ++ fault.message)), m')
        | (.ok s, m') => (.ok ⟨s, .ofThreads c.ioThreads, true, true⟩, m') := by
  have hserving : checkServing c l = .ok () := by rw [checkServing, codec, tls]; rfl
  have hhandle : w.handle = .ok () := by rw [Worker.handle, if_pos hw]
  rw [openListener, hserving]
  simp only [locate, Machine.resolve]
  cases l.address (m.names m.requests) with
  | error e => rfl
  | ok asked =>
    simp only [Channel.listen, hhandle]
    cases m.asked.bind asked with
    | mk result m' => cases result <;> rfl

theorem openListener_of_opens {channel : Channel} (hw : w.isRunning = true)
    (h : Opens c m l channel m') : openListener m w c l = (.ok channel, m') := by
  cases h with
  | opened codec tls address socket =>
    rw [openListener_eq hw codec tls, address]
    simp only [socket]

theorem openListener_of_fails {e : ServerError} (hw : w.isRunning = true)
    (h : Fails c m l e m') : openListener m w c l = (.error e, m') := by
  cases h with
  | codec codec => rw [openListener, checkServing, codec]; rfl
  | tls codec tls => rw [openListener, checkServing, codec, tls]; rfl
  | address codec tls address => rw [openListener_eq hw codec tls, address]
  | socket codec tls address socket =>
    rw [openListener_eq hw codec tls, address]
    simp only [socket]

/-- A listener is opened, or there is a first step of it that fails. -/
theorem opens_or_fails (c : ServerConfig) (m : Machine) (l : Listener) :
    (∃ channel m', Opens c m l channel m') ∨ ∃ e m', Fails c m l e m' := by
  cases codec : checkCodec c l.protocol with
  | error fault => exact .inr ⟨_, _, .codec codec⟩
  | ok _ =>
    cases tls : checkTls l with
    | error e => exact .inr ⟨_, _, .tls codec tls⟩
    | ok _ =>
      cases address : l.address (m.names m.requests) with
      | error e => exact .inr ⟨_, _, .address codec tls address⟩
      | ok asked =>
        obtain ⟨result, m', socket⟩ : ∃ result m', m.asked.bind asked = (result, m') := ⟨_, _, rfl⟩
        cases result with
        | error fault => exact .inr ⟨_, _, .socket codec tls address socket⟩
        | ok s => exact .inl ⟨_, _, .opened codec tls address socket⟩

end Listener

/-! ### Listeners one after another -/

/-- Listeners are opened one after another, each on the machine that the one before it left. -/
inductive OpensAll (c : ServerConfig) :
    Machine → List Listener → List Channel → Machine → Prop where
  | nil (m : Machine) : OpensAll c m [] [] m
  | cons {m m' m'' : Machine} {l : Listener} {channel : Channel} {ls : List Listener}
      {channels : List Channel} (first : Opens c m l channel m')
      (later : OpensAll c m' ls channels m'') : OpensAll c m (l :: ls) (channel :: channels) m''

/-- Listeners are opened up to the first that fails. -/
inductive FailsAmong (c : ServerConfig) (m : Machine) (ls : List Listener) :
    List Channel → ServerError → Machine → Prop where
  | at {front back : List Listener} {l : Listener} {channels : List Channel} {e : ServerError}
      {m' m'' : Machine} (split : ls = front ++ l :: back)
      (opened : OpensAll c m front channels m') (failed : Fails c m' l e m'') :
      FailsAmong c m ls channels e m''

section Listeners

variable {c : ServerConfig} {m m' : Machine} {w : Worker} {ls : List Listener}
  {channels : List Channel}

theorem openAll_of_opensAll (hw : w.isRunning = true) (h : OpensAll c m ls channels m') :
    openAll m w c ls = (channels, none, m') := by
  induction h with
  | nil m => rfl
  | cons first later ih => simp only [openAll, openListener_of_opens hw first, ih]

theorem openAll_of_failsAmong {e : ServerError} (hw : w.isRunning = true)
    (h : FailsAmong c m ls channels e m') : openAll m w c ls = (channels, some e, m') := by
  obtain ⟨rfl, opened, failed⟩ := h
  induction opened with
  | nil m => simp only [List.nil_append, openAll, openListener_of_fails hw failed]
  | cons first later ih =>
    simp only [List.cons_append, openAll, openListener_of_opens hw first, ih failed]

/-- All listeners are opened, or there is a first one that fails. -/
theorem opensAll_or_failsAmong (c : ServerConfig) (m : Machine) (ls : List Listener) :
    (∃ channels m', OpensAll c m ls channels m') ∨
      ∃ channels e m', FailsAmong c m ls channels e m' := by
  induction ls generalizing m with
  | nil => exact .inl ⟨_, _, .nil m⟩
  | cons l ls ih =>
    rcases opens_or_fails c m l with ⟨channel, m', first⟩ | ⟨e, m', failed⟩
    · rcases ih m' with ⟨channels, m'', later⟩ | ⟨channels, e, m'', rfl, opened, failed⟩
      · exact .inl ⟨_, _, .cons first later⟩
      · exact .inr ⟨_, _, _, .at rfl (.cons first opened) failed⟩
    · exact .inr ⟨_, _, _, .at rfl (.nil m) failed⟩

end Listeners

/-! ### A whole start -/

/-- The threads that a configuration asks for. -/
def threadsOf (c : ServerConfig) : Options := .ofThreads c.ioThreads c.workerThreads

/-- Every step of a start succeeds: the handlers, the worker, and each listener. -/
inductive Starts (m : Machine) (c : ServerConfig) : ListenerSet → Machine → Prop where
  | started {root : Handler} {worker : Worker} {channels : List Channel} {m' m'' : Machine}
      (handlers : Routing.build c.hosts = .ok root)
      (threads : Worker.create m (threadsOf c) = (.ok worker, m'))
      (opened : OpensAll c m' c.listeners channels m'') :
      Starts m c ⟨worker, channels, root⟩ m''

/-- The first step of a start that fails: the channels open by then, the error, and the machine
    that the step left behind. -/
inductive Breaks (m : Machine) (c : ServerConfig) :
    List Channel → ServerError → Machine → Prop where
  | handlers {fault : Routing.RegistryFault} (handlers : Routing.build c.hosts = .error fault) :
      Breaks m c [] fault.error m
  | threads {root : Handler} {fault : WorkerFault} {m' : Machine}
      (handlers : Routing.build c.hosts = .ok root)
      (threads : Worker.create m (threadsOf c) = (.error fault, m')) :
      Breaks m c [] fault.error m'
  | listener {root : Handler} {worker : Worker} {channels : List Channel} {e : ServerError}
      {m' m'' : Machine} (handlers : Routing.build c.hosts = .ok root)
      (threads : Worker.create m (threadsOf c) = (.ok worker, m'))
      (failed : FailsAmong c m' c.listeners channels e m'') :
      Breaks m c channels e m''

section Start

variable {c : ServerConfig} {m m' : Machine}

/-- Starting threads leaves the sockets alone, whether or not it succeeds. -/
theorem adds_of_create {o : Options} {result : Except WorkerFault Worker}
    (h : Worker.create m o = (result, m')) : m.Adds [] m' := by
  simp only [Worker.create, Machine.startThreads] at h
  split at h
  · obtain rfl := (Prod.mk.inj h).2
    exact .refl m
  · split at h
    · obtain rfl := (Prod.mk.inj h).2
      exact Machine.adds_asked m
    · have htwice := (Machine.adds_asked m).trans (Machine.adds_asked m.asked)
      split at h
      · obtain rfl := (Prod.mk.inj h).2
        exact htwice
      · obtain rfl := (Prod.mk.inj h).2
        exact htwice

/-- A worker whose threads were started runs. -/
theorem isRunning_of_create {o : Options} {worker : Worker}
    (h : Worker.create m o = (.ok worker, m')) : worker.isRunning = true := by
  simp only [Worker.create, Machine.startThreads] at h
  split at h
  · cases h
  · split at h
    · cases h
    · split at h
      · cases h
      · cases h
        rfl

theorem start_of_starts {set : ListenerSet} (h : Starts m c set m') :
    ListenerSet.start m c = (.ok set, m') := by
  obtain ⟨handlers, threads, opened⟩ := h
  have hw := isRunning_of_create threads
  rw [threadsOf] at threads
  simp only [ListenerSet.start, handlers, threads, openAll_of_opensAll hw opened]

theorem start_of_breaks {channels : List Channel} {e : ServerError} (h : Breaks m c channels e m') :
    ListenerSet.start m c = (.error e, (closeAll m' channels).2.2) := by
  cases h with
  | handlers handlers => simp only [ListenerSet.start, handlers, closeAll]
  | threads handlers threads =>
    rw [threadsOf] at threads
    simp only [ListenerSet.start, handlers, threads, closeAll]
  | listener handlers threads failed =>
    have hw := isRunning_of_create threads
    rw [threadsOf] at threads
    simp only [ListenerSet.start, handlers, threads, openAll_of_failsAmong hw failed]

/-- Every step of a start succeeds, or there is a first one that fails. -/
theorem starts_or_breaks (m : Machine) (c : ServerConfig) :
    (∃ set m', Starts m c set m') ∨ ∃ channels e m', Breaks m c channels e m' := by
  cases handlers : Routing.build c.hosts with
  | error fault => exact .inr ⟨_, _, _, .handlers handlers⟩
  | ok root =>
    obtain ⟨result, m', threads⟩ : ∃ result m', Worker.create m (threadsOf c) = (result, m') :=
      ⟨_, _, rfl⟩
    cases result with
    | error fault => exact .inr ⟨_, _, _, .threads handlers threads⟩
    | ok worker =>
      rcases opensAll_or_failsAmong c m' c.listeners with
        ⟨channels, m'', opened⟩ | ⟨channels, e, m'', failed⟩
      · exact .inl ⟨_, _, .started handlers threads opened⟩
      · exact .inr ⟨_, _, _, .listener handlers threads failed⟩

/-- A start succeeds when every step of it does. -/
theorem start_eq_ok_iff {set : ListenerSet} :
    ListenerSet.start m c = (.ok set, m') ↔ Starts m c set m' := by
  refine ⟨fun h => ?_, start_of_starts⟩
  rcases starts_or_breaks m c with ⟨set', m'', starts⟩ | ⟨channels, e, m'', breaks⟩
  · rw [start_of_starts starts] at h
    obtain ⟨hset, rfl⟩ := Prod.mk.inj h
    obtain rfl := Except.ok.inj hset
    exact starts
  · rw [start_of_breaks breaks] at h
    cases h

/-- A start fails with the error of the first step that fails, and closes what was open by then. -/
theorem start_eq_error_iff {e : ServerError} :
    ListenerSet.start m c = (.error e, m') ↔
      ∃ channels broken, Breaks m c channels e broken ∧ m' = (closeAll broken channels).2.2 := by
  constructor
  · intro h
    rcases starts_or_breaks m c with ⟨set', m'', starts⟩ | ⟨channels, e', m'', breaks⟩
    · rw [start_of_starts starts] at h
      cases h
    · rw [start_of_breaks breaks] at h
      obtain ⟨he, rfl⟩ := Prod.mk.inj h
      obtain rfl := Except.error.inj he
      exact ⟨channels, m'', breaks, rfl⟩
  · rintro ⟨channels, broken, breaks, rfl⟩
    exact start_of_breaks breaks

end Start

/-! ### What a start can fail with -/

section Errors

variable {c : ServerConfig} {m m' : Machine}

/-- TLS material is refused as a configuration, or as something that the server cannot start with.
    -/
theorem ne_lifecycle_of_checkTls {l : Listener} {e : ServerError} (h : checkTls l = .error e)
    (fault : LifecycleFault) : e ≠ .lifecycle fault := by
  simp only [checkTls] at h
  split at h
  · cases h
    exact nofun
  · next security _ _ =>
    cases hsetup : Tls.Setup.ofSecurity security with
    | error f =>
      rw [hsetup] at h
      cases h
      exact nofun
    | ok setup =>
      rw [hsetup] at h
      cases h
  · cases h

/-- No step of a listener fails because of the lifecycle. -/
theorem Fails.ne_lifecycle {l : Listener} {e : ServerError} (h : Fails c m l e m')
    (fault : LifecycleFault) : e ≠ .lifecycle fault := by
  cases h with
  | codec codec => exact nofun
  | tls codec tls => exact ne_lifecycle_of_checkTls tls fault
  | socket codec tls address socket => exact nofun
  | address codec tls address =>
    unfold Listener.address at address
    split at address
    · cases address
    · cases address
      exact nofun

/-- No step of a start fails because of the lifecycle. -/
theorem Breaks.ne_lifecycle {channels : List Worker.Channel} {e : ServerError}
    (h : Breaks m c channels e m') (fault : LifecycleFault) : e ≠ .lifecycle fault := by
  cases h with
  | handlers handlers => exact nofun
  | threads handlers threads => exact nofun
  | listener handlers threads failed =>
    obtain ⟨-, -, failed⟩ := failed
    exact failed.ne_lifecycle fault

end Errors

/-! ### What opening leaves behind -/

/-- An address that a listener may be bound to: its own, with a port that it leaves open. -/
def IsAddressOf (names : Nat → Names) (l : Listener) (a : SocketAddress) : Prop :=
  ∃ request asked, l.address (names request) = .ok asked ∧ a.ip = asked.ip ∧
    (asked.port ≠ 0 → a.port = asked.port)

/-- An open channel of a listener, accepting connections. -/
structure Serves (names : Nat → Names) (l : Listener) (channel : Channel) : Prop where
  isOpen : channel.isOpen = true
  isAccepting : channel.isAccepting = true
  address : IsAddressOf names l channel.address

section LeftBehind

variable {c : ServerConfig} {m m' : Machine} {ls : List Listener} {channels : List Channel}

/-- Opening a listener adds the socket of its channel. -/
theorem Opens.adds {l : Listener} {channel : Channel} (h : Opens c m l channel m') :
    m.Adds [channel.socket] m' := by
  obtain ⟨-, -, -, socket⟩ := h
  exact (Machine.adds_asked m).trans (Machine.adds_of_bind socket)

theorem Opens.serves {l : Listener} {channel : Channel} (h : Opens c m l channel m') :
    Serves m.names l channel := by
  obtain ⟨-, -, address, socket⟩ := h
  obtain ⟨-, hip, hport, -⟩ := Machine.bind_eq_ok socket
  exact ⟨rfl, rfl, m.requests, _, address, hip, hport⟩

/-- A step that fails leaves the sockets alone. -/
theorem Fails.adds {l : Listener} {e : ServerError} (h : Fails c m l e m') : m.Adds [] m' := by
  cases h with
  | codec codec => exact .refl m
  | tls codec tls => exact .refl m
  | address codec tls address => exact Machine.adds_asked m
  | socket codec tls address socket =>
    exact (Machine.adds_asked m).trans (Machine.adds_of_bind_error socket)

/-- Opening listeners adds the sockets of their channels, in order. -/
theorem OpensAll.adds (h : OpensAll c m ls channels m') :
    m.Adds (channels.map (·.socket)) m' := by
  induction h with
  | nil m => exact .refl m
  | cons first later ih => exact first.adds.trans ih

/-- There is one channel for each listener, in order, and it serves this listener. -/
theorem OpensAll.serves (h : OpensAll c m ls channels m') :
    List.Forall₂ (Serves m.names) ls channels := by
  induction h with
  | nil m => exact .nil
  | cons first later ih =>
    rw [first.adds.later.names] at ih
    exact .cons first.serves ih

/-- Up to the first listener that fails, the sockets of those opened before it are added. -/
theorem FailsAmong.adds {e : ServerError} (h : FailsAmong c m ls channels e m') :
    m.Adds (channels.map (·.socket)) m' := by
  obtain ⟨-, opened, failed⟩ := h
  have hadds := opened.adds.trans failed.adds
  rwa [List.append_nil] at hadds

end LeftBehind

end Gatehouse.Server
