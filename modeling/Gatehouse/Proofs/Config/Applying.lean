import Gatehouse.Config.Settings
import Gatehouse.Proofs.Config.Drafting
import Mathlib.Data.List.Forall2
import Mathlib.Tactic.ByContra

namespace Gatehouse.Config

/-!
# Applying settings

Settings name the files of their listeners and give sizes that have defaults of their own. What they
make of a draft is told from the settings and the files alone: which entries describe a listener,
and what is the first thing wrong with the others.

* `SecuritySettings.Loads`, `SecuritySettings.Fails` — the material that some files hold, and what
  is wrong with them; `SecuritySettings.loads_or_fails` says that it is one or the other;
* `ListenerSettings.Builds`, `ListenerSettings.Fails`, `ListenerSettings.builds_or_fails` — the same
  for the entry of a listener;
* `Settings.sized`, `Settings.applySizes_eq` — sizes and counts;
* `Settings.addListeners_of_builds`, `Settings.apply_in_order` — entries one by one, and the whole.
-/

variable {files : FileTree}

/-! ### Material by file -/

namespace SecuritySettings

variable {s : SecuritySettings} {security : Security} {fault : SecurityFault}

/-- All files of the material are there. -/
structure Reads (files : FileTree) (s : SecuritySettings) (cert key : Bytes) (ca : Option Bytes) :
    Prop where
  cert : files.read s.cert = .ok cert
  key : files.read s.key = .ok key
  ca : Option.Rel (fun path bytes => files.read path = .ok bytes) s.caCert ca

/-- The material is what its files hold: certificate and key hold something, and clients are asked
    for certificates only where there is an authority to verify them. -/
structure Loads (files : FileTree) (s : SecuritySettings) (security : Security) : Prop where
  reads : s.Reads files security.cert security.key security.ca
  clientAuth : security.clientAuth = s.clientAuth
  cert : security.cert ≠ []
  key : security.key ≠ []
  verifiable : security.Verifiable

/-- What is wrong with material: the first file that cannot be read, and if all can be read, what is
    missing in them. -/
inductive Fails (files : FileTree) (s : SecuritySettings) : SecurityFault → Prop where
  | certificate {fault : FileFault} (unread : files.read s.cert = .error fault) :
      Fails files s (.unreadable "certificate" s.cert fault)
  | key {cert : Bytes} {fault : FileFault} (read : files.read s.cert = .ok cert)
      (unread : files.read s.key = .error fault) :
      Fails files s (.unreadable "private key" s.key fault)
  | authority {cert key : Bytes} {path : String} {fault : FileFault}
      (read : files.read s.cert = .ok cert) (readKey : files.read s.key = .ok key)
      (named : s.caCert = some path) (unread : files.read path = .error fault) :
      Fails files s (.unreadable "CA certificate" path fault)
  | emptyCertificate {key : Bytes} {ca : Option Bytes} (reads : s.Reads files [] key ca) :
      Fails files s .emptyCertificate
  | emptyKey {cert : Bytes} {ca : Option Bytes} (reads : s.Reads files cert [] ca)
      (filled : cert ≠ []) : Fails files s .emptyKey
  | missingAuthority {cert key : Bytes} (reads : s.Reads files cert key none) (filled : cert ≠ [])
      (filledKey : key ≠ []) (asked : s.clientAuth ≠ .notRequested) :
      Fails files s .missingAuthority

/-- The material of files that are there is checked. -/
theorem build_of_reads {cert key : Bytes} {ca : Option Bytes} (h : s.Reads files cert key ca) :
    s.draft.build files =
      if cert = [] then .error .emptyCertificate
      else if key = [] then .error .emptyKey
      else if s.clientAuth ≠ .notRequested ∧ ca = none then .error .missingAuthority
      else .ok ⟨cert, key, ca, s.clientAuth⟩ := by
  have hcert : (Material.file s.cert).load files "certificate" = .ok cert := by
    rw [Material.load, h.cert]
    rfl
  have hkey : (Material.file s.key).load files "private key" = .ok key := by
    rw [Material.load, h.key]
    rfl
  have hca : (s.caCert.map .file).mapM (Material.load files "CA certificate") = .ok ca := by
    have hrel := h.ca
    cases hpath : s.caCert with
    | none =>
      rw [hpath] at hrel
      cases hrel
      rfl
    | some path =>
      rw [hpath] at hrel
      cases hrel with
      | some hread =>
        rw [Option.map_some, Option.mapM_some, Material.load, hread]
        rfl
  simp only [draft, SecurityDraft.build, hcert, hkey, hca, List.isEmpty_iff,
    Option.isNone_iff_eq_none]
  rfl

/-- Material that can be loaded is loaded. -/
theorem build_of_loads (h : s.Loads files security) : s.draft.build files = .ok security := by
  have hauthority : ¬ (s.clientAuth ≠ .notRequested ∧ security.ca = none) := by
    rintro ⟨hasked, hnone⟩
    have hverifiable := h.verifiable
    rw [Security.Verifiable, h.clientAuth, hnone] at hverifiable
    exact hverifiable.elim hasked Bool.false_ne_true
  rw [build_of_reads h.reads, if_neg h.cert, if_neg h.key, if_neg hauthority, ← h.clientAuth]

/-- What is wrong with material is the fault. -/
theorem build_of_fails (h : s.Fails files fault) : s.draft.build files = .error fault := by
  cases h with
  | certificate unread =>
    simp only [draft, SecurityDraft.build, Material.load, unread]
    rfl
  | key read unread =>
    simp only [draft, SecurityDraft.build, Material.load, read, unread]
    rfl
  | authority read readKey named unread =>
    simp only [draft, SecurityDraft.build, Material.load, read, readKey, named, Option.map_some,
      Option.mapM_some, unread]
    rfl
  | emptyCertificate reads => rw [build_of_reads reads, if_pos rfl]
  | emptyKey reads filled => rw [build_of_reads reads, if_neg filled, if_pos rfl]
  | missingAuthority reads filled filledKey asked =>
    rw [build_of_reads reads, if_neg filled, if_neg filledKey, if_pos ⟨asked, rfl⟩]

/-- All files are there, or one cannot be read. -/
theorem reads_or_fails (files : FileTree) (s : SecuritySettings) :
    (∃ cert key ca, s.Reads files cert key ca) ∨ ∃ fault, s.Fails files fault := by
  cases hcert : files.read s.cert with
  | error fault => exact .inr ⟨_, .certificate hcert⟩
  | ok cert =>
    cases hkey : files.read s.key with
    | error fault => exact .inr ⟨_, .key hcert hkey⟩
    | ok key =>
      cases hpath : s.caCert with
      | none => exact .inl ⟨cert, key, none, hcert, hkey, hpath ▸ .none⟩
      | some path =>
        cases hread : files.read path with
        | error fault => exact .inr ⟨_, .authority hcert hkey hpath hread⟩
        | ok bytes => exact .inl ⟨cert, key, some bytes, hcert, hkey, hpath ▸ .some hread⟩

/-- Material can be loaded, or something is wrong with it. -/
theorem loads_or_fails (files : FileTree) (s : SecuritySettings) :
    (∃ security, s.Loads files security) ∨ ∃ fault, s.Fails files fault := by
  refine (reads_or_fails files s).elim ?_ .inr
  rintro ⟨cert, key, ca, hreads⟩
  by_cases hcert : cert = []
  · exact .inr ⟨_, .emptyCertificate (hcert ▸ hreads)⟩
  by_cases hkey : key = []
  · exact .inr ⟨_, .emptyKey (hkey ▸ hreads) hcert⟩
  by_cases hasked : s.clientAuth = .notRequested
  · exact .inl ⟨⟨cert, key, ca, s.clientAuth⟩, hreads, rfl, hcert, hkey, .inl hasked⟩
  cases ca with
  | none => exact .inr ⟨_, .missingAuthority hreads hcert hkey hasked⟩
  | some bytes =>
    exact .inl ⟨⟨cert, key, some bytes, s.clientAuth⟩, hreads, rfl, hcert, hkey, .inr rfl⟩

end SecuritySettings

/-! ### Listeners -/

namespace ListenerSettings

variable {l : ListenerSettings} {listener : Listener} {e : ServerError}

/-- The listener is what its entry describes: a host, and material exactly for HTTPS. -/
structure Builds (files : FileTree) (l : ListenerSettings) (listener : Listener) : Prop where
  protocol : listener.protocol = l.protocol
  host : listener.host = l.host
  port : listener.port = l.port
  security : Option.Rel (SecuritySettings.Loads files) l.security listener.security
  named : Text.isBlankText l.host = false
  secured : listener.security.isSome = true ↔ listener.protocol = .https

/-- What is wrong with an entry: its material, and if that can be had, its host, and then whether
    its protocol wants the material. -/
inductive Fails (files : FileTree) (l : ListenerSettings) : ServerError → Prop where
  | material {s : SecuritySettings} {fault : SecurityFault} (given : l.security = some s)
      (fails : s.Fails files fault) : Fails files l fault.error
  | blankHost {security : Option Security}
      (loads : Option.Rel (SecuritySettings.Loads files) l.security security)
      (blank : Text.isBlankText l.host = true) : Fails files l ListenerFault.blankHost.error
  | securityMissing (named : Text.isBlankText l.host = false) (absent : l.security = none)
      (https : l.protocol = .https) : Fails files l ListenerFault.securityMissing.error
  | securityUnexpected {security : Option Security}
      (loads : Option.Rel (SecuritySettings.Loads files) l.security security)
      (given : security ≠ none) (named : Text.isBlankText l.host = false)
      (plain : l.protocol ≠ .https) :
      Fails files l (ListenerFault.securityUnexpected l.protocol).error

/-- Material that can be loaded comes with its listener. -/
theorem material_of_loads {security : Option Security}
    (h : Option.Rel (SecuritySettings.Loads files) l.security security) :
    l.draft.security.mapM (SecurityDraft.build files) = .ok security := by
  rw [draft]
  cases hgiven : l.security with
  | none =>
    rw [hgiven] at h
    cases h
    rfl
  | some s =>
    rw [hgiven] at h
    cases h with
    | some hloads =>
      rw [Option.map_some, Option.mapM_some, SecuritySettings.build_of_loads hloads]
      rfl

/-- A listener with its material is checked. -/
theorem build_of_loads {security : Option Security}
    (h : Option.Rel (SecuritySettings.Loads files) l.security security) :
    l.draft.build files
      = (Listener.check ⟨l.protocol, l.host, l.port, security⟩).mapError ListenerFault.error := by
  rw [ListenerDraft.build, material_of_loads h]
  rfl

/-- An entry that describes a listener gives it. -/
theorem build_of_builds (h : l.Builds files listener) : l.draft.build files = .ok listener := by
  obtain ⟨protocol, host, port, security⟩ := listener
  obtain ⟨rfl, rfl, rfl, hloads, hnamed, hsecured⟩ := h
  have hcheck : Listener.check ⟨l.protocol, l.host, l.port, security⟩
      = .ok ⟨l.protocol, l.host, l.port, security⟩ := by
    simp only at hsecured
    rw [Listener.check, if_neg (Bool.eq_false_iff.1 hnamed)]
    cases security with
    | none =>
      cases hprotocol : l.protocol with
      | http => rfl
      | ajp => rfl
      | https => exact absurd (hsecured.2 hprotocol) Bool.false_ne_true
    | some material =>
      have hprotocol := hsecured.1 rfl
      simp only [hprotocol]
  rw [build_of_loads hloads, hcheck]
  rfl

/-- What is wrong with an entry is the error. -/
theorem build_of_fails (h : l.Fails files e) : l.draft.build files = .error e := by
  cases h with
  | @material s fault given fails =>
    rw [ListenerDraft.build, draft, given, Option.map_some, Option.mapM_some,
      SecuritySettings.build_of_fails fails]
    rfl
  | blankHost loads blank =>
    rw [build_of_loads loads, Listener.check, if_pos blank]
    rfl
  | securityMissing named absent https =>
    have hloads : Option.Rel (SecuritySettings.Loads files) l.security none := absent ▸ .none
    rw [build_of_loads hloads, Listener.check, if_neg (Bool.eq_false_iff.1 named)]
    simp only [https]
    rfl
  | securityUnexpected loads given named plain =>
    rw [build_of_loads loads, Listener.check, if_neg (Bool.eq_false_iff.1 named)]
    obtain ⟨security, rfl⟩ := Option.ne_none_iff_exists'.1 given
    cases hprotocol : l.protocol with
    | http => rfl
    | ajp => rfl
    | https => exact absurd hprotocol plain

/-- An entry describes a listener, or something is wrong with it. -/
theorem builds_or_fails (files : FileTree) (l : ListenerSettings) :
    (∃ listener, l.Builds files listener) ∨ ∃ e, l.Fails files e := by
  have hmaterial : (∃ security, Option.Rel (SecuritySettings.Loads files) l.security security) ∨
      ∃ e, l.Fails files e := by
    cases hgiven : l.security with
    | none => exact .inl ⟨none, .none⟩
    | some s =>
      rcases SecuritySettings.loads_or_fails files s with ⟨security, hloads⟩ | ⟨fault, hfails⟩
      · exact .inl ⟨some security, .some hloads⟩
      · exact .inr ⟨_, .material hgiven hfails⟩
  refine hmaterial.elim ?_ .inr
  rintro ⟨security, hloads⟩
  cases hblank : Text.isBlankText l.host with
  | true => exact .inr ⟨_, .blankHost hloads hblank⟩
  | false =>
    by_cases hsecured : security.isSome = true ↔ l.protocol = .https
    · exact .inl ⟨⟨l.protocol, l.host, l.port, security⟩, rfl, rfl, rfl, hloads, hblank, hsecured⟩
    · cases security with
      | none =>
        have habsent : l.security = none := by
          generalize l.security = given at hloads
          cases hloads with
          | none => rfl
        have hprotocol : l.protocol = .https := by
          by_contra hplain
          exact hsecured (iff_of_false nofun hplain)
        exact .inr ⟨_, .securityMissing hblank habsent hprotocol⟩
      | some material =>
        have hprotocol : l.protocol ≠ .https := by
          intro hprotocol
          exact hsecured (iff_of_true rfl hprotocol)
        exact .inr ⟨_, .securityUnexpected hloads nofun hblank hprotocol⟩

end ListenerSettings

/-! ### Sizes and counts -/

namespace Settings

/-- A value that follows from the memory budget, if there is one. -/
def profiled {α : Type} (s : Settings) (value : Buffer.Profile → α) (previous : α) : α :=
  (s.maxMemory.map fun budget => value (Buffer.Profile.ofMemory budget)).getD previous

/-- What settings make of a configuration, its listeners aside: a size that is given wins over the
    one of the memory budget, and that one over the size there was. -/
def sized (s : Settings) (c : ServerConfig) : ServerConfig :=
  { c with
    bufferSize := s.bufferSize.getD (s.profiled (·.bufferSize) c.bufferSize)
    perRegion := s.perRegion.getD (s.profiled (·.perRegion) c.perRegion)
    direct := s.direct.getD (s.profiled (·.direct) c.direct)
    ioThreads := s.ioThreads.getD c.ioThreads
    workerThreads := s.workerThreads.getD c.workerThreads }

/-- An edit puts its value in place, and without a value changes nothing. -/
theorem edit_eq {α : Type} (set : ServerDraft → α → ServerDraft)
    (put : ServerConfig → Option α → ServerConfig)
    (hsome : ∀ d a, set d a = ⟨put d.config (some a)⟩) (hnone : ∀ c, put c none = c)
    (value : Option α) (d : ServerDraft) : edit set value d = ⟨put d.config value⟩ := by
  cases value with
  | none =>
    rw [hnone]
    rfl
  | some a => exact hsome d a

/-- The edits of the sizes and counts, one after another, are one. -/
theorem applySizes_eq (s : Settings) (d : ServerDraft) : s.applySizes d = ⟨s.sized d.config⟩ := by
  have hmemory := edit_eq ServerDraft.withMemory
    (fun c v => { c with
      bufferSize := (v.map fun b => (Buffer.Profile.ofMemory b).bufferSize).getD c.bufferSize
      perRegion := (v.map fun b => (Buffer.Profile.ofMemory b).perRegion).getD c.perRegion
      direct := (v.map fun b => (Buffer.Profile.ofMemory b).direct).getD c.direct })
    (fun _ _ => rfl) (fun _ => rfl)
  have hbuffer := edit_eq ServerDraft.setBufferSize
    (fun c v => { c with bufferSize := v.getD c.bufferSize }) (fun _ _ => rfl) (fun _ => rfl)
  have hregion := edit_eq ServerDraft.setPerRegion
    (fun c v => { c with perRegion := v.getD c.perRegion }) (fun _ _ => rfl) (fun _ => rfl)
  have hio := edit_eq ServerDraft.setIoThreads
    (fun c v => { c with ioThreads := v.getD c.ioThreads }) (fun _ _ => rfl) (fun _ => rfl)
  have hworker := edit_eq ServerDraft.setWorkerThreads
    (fun c v => { c with workerThreads := v.getD c.workerThreads }) (fun _ _ => rfl) (fun _ => rfl)
  have hdirect := edit_eq ServerDraft.setDirect
    (fun c v => { c with direct := v.getD c.direct }) (fun _ _ => rfl) (fun _ => rfl)
  rw [applySizes, hdirect, hworker, hio, hregion, hbuffer, hmemory]
  rfl

/-! ### Listeners one by one -/

/-- Entries that describe listeners have them added. -/
theorem addListeners_of_builds {before : List ListenerSettings} {built : List Listener}
    (h : List.Forall₂ (ListenerSettings.Builds files) before built) (rest : List ListenerSettings)
    (d : ServerDraft) :
    addListeners files (before ++ rest) d
      = addListeners files rest ⟨{ d.config with listeners := d.config.listeners ++ built }⟩ := by
  induction h generalizing d with
  | nil => rw [List.nil_append, List.append_nil]
  | @cons l listener before built hl _ ih =>
    rw [List.cons_append, addListeners, ListenerSettings.build_of_builds hl]
    simp only
    rw [ih, ServerDraft.addListener, List.append_assoc]
    rfl

/-- All entries describe listeners, or there is a first one that does not. -/
theorem builds_or_first_fails (files : FileTree) (ls : List ListenerSettings) :
    (∃ built, List.Forall₂ (ListenerSettings.Builds files) ls built) ∨
      ∃ before l rest built e, ls = before ++ l :: rest ∧
        List.Forall₂ (ListenerSettings.Builds files) before built ∧ l.Fails files e := by
  induction ls with
  | nil => exact .inl ⟨[], .nil⟩
  | cons l ls ih =>
    rcases ListenerSettings.builds_or_fails files l with ⟨listener, hl⟩ | ⟨e, hfails⟩
    · rcases ih with ⟨built, hbuilt⟩ | ⟨before, l', rest, built, e, rfl, hbuilt, hfails⟩
      · exact .inl ⟨listener :: built, .cons hl hbuilt⟩
      · exact .inr ⟨l :: before, l', rest, listener :: built, e, rfl, .cons hl hbuilt, hfails⟩
    · exact .inr ⟨[], l, ls, [], e, rfl, .nil, hfails⟩

/-- What applying settings makes of a draft. If every entry describes a listener, the listeners are
    added in order. Otherwise those of the entries in front of the first one that describes none are
    added, and what is wrong with that entry is the error. Sizes and counts are set in both cases,
    and nothing else is changed. -/
theorem apply_in_order (files : FileTree) (s : Settings) (d : ServerDraft) :
    (∀ built, List.Forall₂ (ListenerSettings.Builds files) s.listeners built →
      s.apply files d
        = (⟨{ s.sized d.config with listeners := d.config.listeners ++ built }⟩, .ok ())) ∧
    (∀ before l rest built e, s.listeners = before ++ l :: rest →
      List.Forall₂ (ListenerSettings.Builds files) before built → l.Fails files e →
      s.apply files d
        = (⟨{ s.sized d.config with listeners := d.config.listeners ++ built }⟩, .error e)) ∧
    ((∃ built, List.Forall₂ (ListenerSettings.Builds files) s.listeners built) ∨
      ∃ before l rest built e, s.listeners = before ++ l :: rest ∧
        List.Forall₂ (ListenerSettings.Builds files) before built ∧ l.Fails files e) := by
  refine ⟨?_, ?_, builds_or_first_fails files s.listeners⟩
  · intro built hbuilt
    have hadded := addListeners_of_builds hbuilt [] (s.applySizes d)
    rw [List.append_nil, applySizes_eq] at hadded
    rw [apply, applySizes_eq, hadded]
    rfl
  · intro before l rest built e hlist hbuilt hfails
    rw [apply, hlist, addListeners_of_builds hbuilt, addListeners,
      ListenerSettings.build_of_fails hfails, applySizes_eq]
    rfl

/-- A certificate and a key. -/
def pairFiles : FileTree := .ofFiles [("tls/cert.pem", [1]), ("tls/key.pem", [2])]

/-- Settings with a budget, a size of their own, and a last entry whose key is not there. -/
def halfway : Settings where
  maxMemory := some (100 * Buffer.mebibyte)
  bufferSize := some 777
  perRegion := none
  ioThreads := none
  workerThreads := some 3
  direct := none
  listeners :=
    [⟨.http, "localhost", 80, none⟩,
      ⟨.https, "localhost", 443, some ⟨"tls/cert.pem", "tls/key.pem", none, .notRequested⟩⟩,
      ⟨.https, "", 444, some ⟨"tls/cert.pem", "tls/none.pem", none, .required⟩⟩,
      ⟨.http, "localhost", 81, none⟩]

/-- Such settings end with the key, and two listeners are there. -/
theorem apply_in_order_halfway :
    let applied := halfway.apply pairFiles (.forMachine (16 * Buffer.mebibyte) 2)
    applied.2 = .error (SecurityFault.unreadable "private key" "tls/none.pem" .missing).error ∧
      applied.1.config.listeners = [⟨.http, "localhost", 80, none⟩,
        ⟨.https, "localhost", 443, some ⟨[1], [2], none, .notRequested⟩⟩] ∧
      applied.1.config.bufferSize = 777 ∧ applied.1.config.perRegion = 10 ∧
      applied.1.config.direct = true ∧ applied.1.config.ioThreads = 2 ∧
      applied.1.config.workerThreads = 3 := by
  have hcert : pairFiles.read "tls/cert.pem" = .ok [1] := by decide +kernel
  have hkey : pairFiles.read "tls/key.pem" = .ok [2] := by decide +kernel
  have hnone : pairFiles.read "tls/none.pem" = .error .missing := by decide +kernel
  have hnamed : Text.isBlankText "localhost" = false := by decide +kernel
  have hplain : ListenerSettings.Builds pairFiles ⟨.http, "localhost", 80, none⟩
      ⟨.http, "localhost", 80, none⟩ := ⟨rfl, rfl, rfl, .none, hnamed, by simp⟩
  have hsecure : ListenerSettings.Builds pairFiles
      ⟨.https, "localhost", 443, some ⟨"tls/cert.pem", "tls/key.pem", none, .notRequested⟩⟩
      ⟨.https, "localhost", 443, some ⟨[1], [2], none, .notRequested⟩⟩ :=
    ⟨rfl, rfl, rfl, .some ⟨⟨hcert, hkey, .none⟩, rfl, nofun, nofun, .inl rfl⟩, hnamed, by simp⟩
  obtain ⟨-, happlied, -⟩ :=
    apply_in_order pairFiles halfway (.forMachine (16 * Buffer.mebibyte) 2)
  have hfails : ListenerSettings.Fails pairFiles
      ⟨.https, "", 444, some ⟨"tls/cert.pem", "tls/none.pem", none, .required⟩⟩
      (SecurityFault.unreadable "private key" "tls/none.pem" .missing).error :=
    .material rfl (.key hcert hnone)
  have hended := happlied _ _ _ _ _ rfl (.cons hplain (.cons hsecure .nil)) hfails
  rw [hended]
  exact ⟨rfl, rfl, rfl, rfl, rfl, rfl, rfl⟩

end Settings

end Gatehouse.Config
