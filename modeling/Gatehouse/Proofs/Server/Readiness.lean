import Gatehouse.Proofs.Config.Drafting
import Gatehouse.Proofs.Routing.HostChoice
import Gatehouse.Proofs.Server.Opening
import Gatehouse.Server.Lifecycle

namespace Gatehouse.Server

open Checks Config Net Tls Worker

/-!
# Configurations that are ready to be started

What can be wrong with a configuration by itself is found while it is drafted or when it is built.
A start of what was built checks it all again and finds nothing: when it fails, an address could not
be bound, TLS material is unusable, or the machine has refused to start threads.

* `Ready` — a configuration that was built from a draft; `ready_of_build`;
* `Remaining`, `BeyondChecks` — the errors that are left for its start;
* `Fails.remaining`, `Breaks.remaining` — no step of the start fails in any other way;
* `start_of_build` — so neither does the start, of listeners or of a whole server.
-/

/-- A configuration that passed its checks, with listeners that can be secured. -/
structure Ready (c : ServerConfig) : Prop where
  check : c.check = .ok ()
  securable : ∀ l ∈ c.listeners, l.Securable

/-- Whatever a draft went through, what is built from it is ready. -/
theorem ready_of_build {memory parallelism : Nat} {es : List DraftEdit} {c : ServerConfig}
    (h : ((ServerDraft.forMachine memory parallelism).edits es).build = .ok c) : Ready c := by
  obtain ⟨rfl, hcheck⟩ := ServerDraft.build_eq_ok h
  exact ⟨hcheck, ServerDraft.securable_edits memory parallelism es⟩

/-- What may still keep a configuration that is ready from being started on a machine. -/
inductive Remaining (m : Machine) (c : ServerConfig) : ServerError → Prop where
  /-- A listener has no address, or its address cannot be bound. -/
  | bind (reason : String) : Remaining m c (.bind reason)
  /-- The certificate, the key or the authority of a listener is unusable. -/
  | material {l : Listener} {s : Security} {fault : TlsFault} (listener : l ∈ c.listeners)
      (security : l.security = some s) (refused : Setup.ofSecurity s = .error fault)
      (unusable : fault ≠ .missingAuthority) : Remaining m c fault.error
  /-- The machine refuses to start threads. -/
  | threads {request : Nat} {reason : String} (refused : m.threadFault request = some reason) :
      Remaining m c (.start (.worker reason))

/-- An error that the checks of a configuration could not have found. -/
structure BeyondChecks (m : Machine) (c : ServerConfig) (e : ServerError) : Prop where
  remaining : Remaining m c e
  ne_config : ∀ fault, e ≠ .config fault
  ne_missingAuthority : e ≠ TlsFault.missingAuthority.error

/-! ### TLS material -/

section Material

variable {bs : Bytes} {s : Security} {fault : TlsFault}

theorem ne_missingAuthority_of_loadCertificates (h : loadCertificates bs = .error fault) :
    fault ≠ .missingAuthority := by
  simp only [loadCertificates] at h
  split at h
  · cases h
  · split at h
    · cases h
      exact nofun
    · split at h
      · cases h
        exact nofun
      · cases h

theorem ne_missingAuthority_of_loadKey (h : loadKey bs = .error fault) :
    fault ≠ .missingAuthority := by
  simp only [loadKey] at h
  split at h
  · split at h
    · cases h
    · cases h
      exact nofun
  · split at h
    · cases h
    · cases h
      exact nofun
    · cases h
      exact nofun

theorem ne_missingAuthority_of_checkPair {chain : List Bytes} {key : PrivateKey}
    (h : checkPair chain key = .error fault) : fault ≠ .missingAuthority := by
  simp only [checkPair] at h
  split at h
  · cases h
    exact nofun
  · cases h
    exact nofun
  · split at h
    · cases h
    · cases h
      exact nofun

/-- Where there is an authority to verify clients, it is not missed. -/
theorem ne_missingAuthority_of_loadAuthorities (hs : s.Verifiable)
    (h : loadAuthorities s = .error fault) : fault ≠ .missingAuthority := by
  simp only [loadAuthorities] at h
  split at h
  · cases h
  · next hnone hasked =>
    rcases hs with hnot | hsome
    · exact absurd hnot hasked
    · rw [hnone] at hsome
      cases hsome
  · rcases bind_eq_error_iff.1 h with h | ⟨certificates, -, h⟩
    · exact ne_missingAuthority_of_loadCertificates h
    · rcases bind_eq_error_iff.1 h with h | ⟨_, -, h⟩
      · rw [List.forM_eq_forM] at h
        obtain ⟨der, -, h⟩ := exists_of_forM_eq_error h
        obtain ⟨reason, -, rfl⟩ := mapError_eq_error_iff.1 h
        exact nofun
      · cases h

/-- Material that can be verified is refused for what it is. -/
theorem ne_missingAuthority_of_setup (hs : s.Verifiable) (h : Setup.ofSecurity s = .error fault) :
    fault ≠ .missingAuthority := by
  -- The setup has four steps, of which the first one that fails decides on the fault.
  rcases bind_eq_error_iff.1 h with h | ⟨chain, -, h⟩
  · exact ne_missingAuthority_of_loadCertificates h
  rcases bind_eq_error_iff.1 h with h | ⟨key, -, h⟩
  · exact ne_missingAuthority_of_loadKey h
  rcases bind_eq_error_iff.1 h with h | ⟨authorities, -, h⟩
  · exact ne_missingAuthority_of_loadAuthorities hs h
  rcases bind_eq_error_iff.1 h with h | ⟨_, -, h⟩
  · exact ne_missingAuthority_of_checkPair h
  · cases h

end Material

/-- Texts that begin with different letters are different. -/
theorem append_ne_of_first {s t u : String} (x y : Char) (hs : s.toList.head? = some x)
    (hu : u.toList.head? = some y) (hxy : x ≠ y) : s ++ t ≠ u := by
  rintro rfl
  rw [String.toList_append, List.head?_append, hs] at hu
  exact hxy (Option.some.inj hu)

/-- No other fault has the wording of a missing authority. -/
theorem message_ne_missingAuthority {fault : TlsFault} (h : fault ≠ .missingAuthority) :
    fault.message ≠ TlsFault.missingAuthority.message := by
  cases fault with
  | missingAuthority => exact absurd rfl h
  | certificateText reason => exact append_ne_of_first 'F' 'c' (by decide) (by decide) (by decide)
  | noCertificate => decide
  | keyText reason => exact append_ne_of_first 'F' 'c' (by decide) (by decide) (by decide)
  | noKey => decide
  | authority reason => exact append_ne_of_first 'I' 'c' (by decide) (by decide) (by decide)
  | certificate reason => exact append_ne_of_first 'i' 'c' (by decide) (by decide) (by decide)
  | key => decide
  | keyMismatch => decide

/-! ### The steps of a start -/

section Steps

variable {m m' m'' : Machine} {c : ServerConfig} {e : ServerError}

/-- Securing a listener fails because of its material. -/
theorem Remaining.of_checkTls {l : Listener} (hl : l ∈ c.listeners) (hsecurable : l.Securable)
    (h : checkTls l = .error e) : Remaining m c e := by
  simp only [checkTls] at h
  split at h
  -- Without any material a listener that needs some would not have been drafted.
  · next hprotocol hnone => exact absurd hnone (hsecurable.secured hprotocol)
  · next security hprotocol hsecurity =>
    cases hsetup : Setup.ofSecurity security with
    | ok setup =>
      rw [hsetup] at h
      cases h
    | error fault =>
      rw [hsetup] at h
      obtain rfl := Except.error.inj h
      exact .material hl hsecurity hsetup
        (ne_missingAuthority_of_setup (hsecurable.verifiable security hsecurity) hsetup)
  · cases h

/-- There is a codec for every listener that passed its check. -/
theorem checkCodec_of_checked {l : Listener} (h : l.protocol = .ajp → c.hasCodec .ajp = true) :
    checkCodec c l.protocol = .ok () := by
  rw [checkCodec]
  cases hprotocol : l.protocol with
  | http => simp
  | https => simp
  | ajp => rw [h hprotocol]; rfl

/-- No step of a listener fails for a reason that the checks were there to find. -/
theorem Fails.remaining {l : Listener} (hc : Ready c) (hl : l ∈ c.listeners)
    (h : Fails c m' l e m'') : Remaining m c e := by
  obtain ⟨-, hlisteners, -⟩ := c.check_eq_ok_iff.1 hc.check
  cases h with
  | codec codec =>
    -- The check of the configuration looked for the codec, too.
    rw [checkCodec_of_checked (hlisteners l hl).2] at codec
    cases codec
  | tls codec tls => exact .of_checkTls hl (hc.securable l hl) tls
  | socket codec tls address socket => exact .bind _
  | address codec tls address =>
    unfold Listener.address at address
    split at address
    · cases address
    · obtain rfl := Except.error.inj address
      exact .bind _

/-- Where counts are positive, the machine alone can refuse a worker. -/
theorem refused_of_create {o : Options} {fault : WorkerFault} (hio : 0 < o.ioThreads)
    (hworker : 0 < o.workerThreads) (h : Worker.create m o = (.error fault, m')) :
    ∃ request reason, fault = .refused reason ∧ m.threadFault request = some reason := by
  have hcounts : ¬ (o.ioThreads = 0 || o.workerThreads = 0) = true := by
    rw [Bool.or_eq_true, decide_eq_true_iff, decide_eq_true_iff]
    omega
  simp only [Worker.create, Machine.startThreads, if_neg hcounts] at h
  -- The machine is asked for threads twice, and may refuse either time.
  split at h
  · next reason hrefused =>
    cases h
    exact ⟨_, _, rfl, hrefused⟩
  · split at h
    · next reason hrefused =>
      cases h
      exact ⟨_, _, rfl, hrefused⟩
    · cases h

theorem threads_pos (h : ∀ p ∈ c.positives, 0 < p.2) :
    0 < (threadsOf c).ioThreads ∧ 0 < (threadsOf c).workerThreads := by
  simp only [ServerConfig.positives, List.forall_mem_cons] at h
  simp only [threadsOf, Options.ofThreads]
  omega

/-- No step of a start fails for a reason that the checks were there to find. -/
theorem Breaks.remaining {channels : List Channel} (hc : Ready c)
    (h : Breaks m c channels e m') : Remaining m c e := by
  obtain ⟨⟨hpositive, -⟩, -, hhosts⟩ := c.check_eq_ok_iff.1 hc.check
  cases h with
  | @handlers fault handlers =>
    -- A registry that passed its check is built.
    rw [(Routing.build_eq_ok_iff _ _).2 ⟨hhosts, rfl⟩] at handlers
    cases handlers
  | threads handlers threads =>
    obtain ⟨hio, hworker⟩ := threads_pos hpositive
    obtain ⟨request, reason, rfl, hrefused⟩ := refused_of_create hio hworker threads
    exact .threads hrefused
  | listener handlers threads failed =>
    obtain ⟨hsplit, -, failed⟩ := failed
    exact failed.remaining hc (by rw [hsplit]; simp)

/-- What remains is neither a fault of the configuration nor a missing authority. -/
theorem Remaining.beyondChecks (h : Remaining m c e) : BeyondChecks m c e := by
  refine ⟨h, ?_, ?_⟩
  · cases h with
    | bind reason => exact nofun
    | material listener security refused unusable => exact nofun
    | threads refused => exact nofun
  · cases h with
    | bind reason => exact nofun
    | material listener security refused unusable =>
      intro hsame
      simp only [TlsFault.error, ServerError.start.injEq, StartFault.tls.injEq] at hsame
      exact message_ne_missingAuthority unusable hsame
    | threads refused => exact nofun

end Steps

/-! ### A whole start -/

section Start

variable {m : Machine} {c : ServerConfig} {e : ServerError}

/-- The counts of a configuration that is ready are never what a worker is refused for. -/
theorem Ready.create_ne_noThreads (hc : Ready c) (m : Machine) :
    (Worker.create m (threadsOf c)).1 ≠ .error .noThreads := by
  obtain ⟨⟨hpositive, -⟩, -, -⟩ := c.check_eq_ok_iff.1 hc.check
  obtain ⟨hio, hworker⟩ := threads_pos hpositive
  intro hfault
  obtain ⟨request, reason, hrefused, -⟩ :=
    refused_of_create hio hworker (Prod.ext hfault rfl)
  cases hrefused

/-- A start of listeners that fails does so beyond the checks. -/
theorem Ready.beyondChecks (hc : Ready c) (h : (ListenerSet.start m c).1 = .error e) :
    BeyondChecks m c e := by
  obtain ⟨channels, broken, breaks, -⟩ := start_eq_error_iff.1 (Prod.ext h rfl)
  exact (breaks.remaining hc).beyondChecks

/-- The owner of listeners starts them unless it has some open. -/
theorem Ready.beyondChecks_listeners (hc : Ready c) {s : Listeners}
    (h : (Listeners.start m c s).1 = .error e) :
    (s.isRunning = false → BeyondChecks m c e) ∧
      (s.isRunning = true → e = .lifecycle .alreadyRunning) := by
  obtain ⟨_ | set⟩ := s
  · refine ⟨fun _ => hc.beyondChecks ?_, nofun⟩
    simp only [Listeners.start] at h
    split at h
    · next hstart =>
      obtain rfl := Except.error.inj h
      rw [hstart]
    · cases h
  · exact ⟨nofun, fun _ => (Except.error.inj h).symm⟩

/-- A server starts listeners once. -/
theorem Ready.beyondChecks_server {s : Server} (hc : Ready s.config)
    (h : (s.start m).1 = .error e) :
    (s.state = .notStarted → BeyondChecks m s.config e) ∧
      (s.state ≠ .notStarted → ∃ fault, e = .lifecycle fault) := by
  obtain ⟨c, _ | set | _⟩ := s
  · refine ⟨fun _ => hc.beyondChecks ?_, fun hstate => absurd rfl hstate⟩
    simp only [Server.start] at h
    split at h
    · next hstart =>
      obtain rfl := Except.error.inj h
      rw [hstart]
    · cases h
  · exact ⟨nofun, fun _ => ⟨_, (Except.error.inj h).symm⟩⟩
  · exact ⟨nofun, fun _ => ⟨_, (Except.error.inj h).symm⟩⟩

/-- Whatever edits a draft went through: once it has been built, starting it on any machine fails
    for reasons only that lie beyond its checks, whether listeners are started by their owner or by
    a server. A start that was not due fails because of the lifecycle. -/
theorem start_of_build {memory parallelism : Nat} {es : List DraftEdit}
    (hbuild : ((ServerDraft.forMachine memory parallelism).edits es).build = .ok c) (m : Machine) :
    (Worker.create m (threadsOf c)).1 ≠ .error .noThreads ∧
      (∀ (s : Listeners) (e : ServerError), (s.start m c).1 = .error e →
        (s.isRunning = false → BeyondChecks m c e) ∧
          (s.isRunning = true → e = .lifecycle .alreadyRunning)) ∧
      ∀ (s : Server) (e : ServerError), s.config = c → (s.start m).1 = .error e →
        (s.state = .notStarted → BeyondChecks m c e) ∧
          (s.state ≠ .notStarted → ∃ fault, e = .lifecycle fault) := by
  have hc := ready_of_build hbuild
  refine ⟨hc.create_ne_noThreads m, fun s e h => hc.beyondChecks_listeners h, ?_⟩
  rintro s e rfl h
  exact hc.beyondChecks_server h

/-- A listener that verifies clients, but whose key is none, next to others of either kind. -/
def keyless : List DraftEdit :=
  [.https 8443 "0.0.0.0" (.ofFiles []) ⟨.bytes [0x30], .bytes [0x30], none, .required⟩,
    .https 8443 "0.0.0.0" (.ofFiles [])
      ⟨.bytes [0x30], .bytes [0x30], some (.bytes [0x30]), .required⟩,
    .ajp 8009 "0.0.0.0", .codec .ajp, .workerThreads 3]

/-- The one refused for want of an authority is left out, and what is left fails with its key. -/
theorem start_of_build_keyless :
    let d := (ServerDraft.forMachine 0 1).edits keyless
    d.build = .ok d.config ∧ d.config.listeners.map (·.port) = [8443, 8009] ∧
      (Listeners.start .isolated d.config .idle).1 =
        .error (.start (.tls "Failed to parse private key: unknown or invalid key format")) ∧
      BeyondChecks .isolated d.config
        (.start (.tls "Failed to parse private key: unknown or invalid key format")) := by
  intro d
  have hbuild : d.build = .ok d.config := rfl
  have hstart : (Listeners.start .isolated d.config .idle).1 =
      .error (.start (.tls "Failed to parse private key: unknown or invalid key format")) := rfl
  exact ⟨hbuild, rfl, hstart, ((start_of_build hbuild .isolated).2.1 .idle _ hstart).1 rfl⟩

end Start

end Gatehouse.Server
