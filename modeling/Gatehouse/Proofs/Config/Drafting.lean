import Gatehouse.Config.Settings
import Gatehouse.Proofs.Checks

namespace Gatehouse.Config

open Checks

/-!
# Drafts by their edits

A configuration is drafted by edits in any order. Some of them build a listener first, and change
nothing where it cannot be built; settings may add some of their listeners and then end with a
fault. What a single listener needs is seen to when it is built, and what the parts need of one
another when the whole draft is.

* `DraftEdit`, `ServerDraft.edit`, `ServerDraft.edits` — the edits of a draft;
* `Security.Verifiable`, `Listener.Securable` — what building a listener sees to;
* `ServerDraft.securable_edits` — it is so for every listener of a draft, whatever its edits;
* `ServerConfig.check_eq_ok_iff` — what building a draft sees to.
-/

/-! ### Edits -/

/-- One edit of a draft. Files are those that are there at the time of the edit. -/
inductive DraftEdit where
  | memory (budget : Nat)
  | bufferSize (n : Nat)
  | perRegion (n : Nat)
  | ioThreads (n : Nat)
  | workerThreads (n : Nat)
  | direct (b : Bool)
  | http (port : Nat) (host : String)
  | https (port : Nat) (host : String) (files : FileTree) (material : SecurityDraft)
  | ajp (port : Nat) (host : String)
  | listener (files : FileTree) (listener : ListenerDraft)
  | codec (protocol : Protocol)
  | host (host : Routing.VirtualHost)
  | defaultHost (edit : Routing.VirtualHost → Routing.VirtualHost)
  | settings (files : FileTree) (settings : Settings)

namespace ServerDraft

/-- Adds a listener if it could be built. -/
def addBuilt {ε : Type} (d : ServerDraft) : Except ε Listener → ServerDraft
  | .ok l => d.addListener l
  | .error _ => d

/-- Makes one edit. -/
def edit (d : ServerDraft) : DraftEdit → ServerDraft
  | .memory budget => d.withMemory budget
  | .bufferSize n => d.setBufferSize n
  | .perRegion n => d.setPerRegion n
  | .ioThreads n => d.setIoThreads n
  | .workerThreads n => d.setWorkerThreads n
  | .direct b => d.setDirect b
  | .http port host => d.addListener ⟨.http, host, port, none⟩
  | .https port host files material =>
    d.addBuilt ((material.build files).map fun s => ⟨.https, host, port, some s⟩)
  | .ajp port host => d.addListener ⟨.ajp, host, port, none⟩
  | .listener files l => d.addBuilt (l.build files)
  | .codec protocol => d.addCodec protocol
  | .host h => d.addHost h
  | .defaultHost e => d.editDefaultHost e
  | .settings files s => (s.apply files d).1

/-- Makes edits one after another. -/
def edits (d : ServerDraft) (es : List DraftEdit) : ServerDraft := es.foldl edit d

end ServerDraft

/-! ### What building a listener sees to -/

/-- Clients are asked for certificates only where there is an authority to verify them. -/
def Security.Verifiable (s : Security) : Prop := s.clientAuth = .notRequested ∨ s.ca.isSome = true

/-- A listener can be secured as its protocol wants. -/
structure Listener.Securable (l : Listener) : Prop where
  secured : l.protocol = .https → l.security ≠ none
  verifiable : ∀ s, l.security = some s → s.Verifiable

section Building

variable {files : FileTree}

/-- Material that was built can be verified. -/
theorem SecurityDraft.verifiable_of_build {d : SecurityDraft} {s : Security}
    (h : d.build files = .ok s) : s.Verifiable := by
  obtain ⟨cert, -, h⟩ := bind_eq_ok_iff.1 h
  obtain ⟨key, -, h⟩ := bind_eq_ok_iff.1 h
  obtain ⟨ca, -, h⟩ := bind_eq_ok_iff.1 h
  obtain ⟨-, h⟩ := not_of_guard h
  obtain ⟨-, h⟩ := not_of_guard h
  obtain ⟨hauthority, h⟩ := not_of_guard h
  obtain rfl := Except.ok.inj h
  rw [Security.Verifiable, Option.isSome_iff_ne_none]
  rw [Option.isNone_iff_eq_none] at hauthority
  exact Decidable.or_iff_not_imp_left.2 fun hasked hnone => hauthority ⟨hasked, hnone⟩

/-- A listener that passes its check has material where its protocol wants some. -/
theorem Listener.secured_of_check {l l' : Listener} (h : l.check = .ok l') :
    l' = l ∧ (l.protocol = .https → l.security ≠ none) := by
  obtain ⟨protocol, host, port, security⟩ := l
  simp only [Listener.check] at h
  split at h
  · cases h
  · split at h
    · cases h
    · exact ⟨(Except.ok.inj h).symm, fun _ => nofun⟩
    · exact ⟨(Except.ok.inj h).symm, fun hprotocol => absurd hprotocol ‹_›⟩
    · cases h

/-- A listener that was built can be secured. -/
theorem ListenerDraft.securable_of_build {d : ListenerDraft} {l : Listener}
    (h : d.build files = .ok l) : l.Securable := by
  obtain ⟨security, hmaterial, h⟩ := bind_eq_ok_iff.1 h
  obtain ⟨rfl, hsecured⟩ := Listener.secured_of_check (mapError_eq_ok_iff.1 h)
  refine ⟨hsecured, fun s hs => ?_⟩
  obtain rfl : security = some s := hs
  cases hd : d.security with
  | none =>
    rw [hd] at hmaterial
    cases hmaterial
  | some material =>
    rw [hd] at hmaterial
    obtain ⟨built, hbuilt, hsome⟩ := bind_eq_ok_iff.1 (mapError_eq_ok_iff.1 hmaterial)
    obtain rfl := Option.some.inj (Except.ok.inj hsome)
    exact SecurityDraft.verifiable_of_build hbuilt

end Building

/-! ### The listeners of a draft -/

namespace ServerDraft

/-- Every listener of a draft can be secured. -/
def Securable (d : ServerDraft) : Prop := ∀ l ∈ d.config.listeners, l.Securable

variable {d : ServerDraft} {files : FileTree}

theorem Securable.addListener {l : Listener} (h : d.Securable) (hl : l.Securable) :
    (d.addListener l).Securable := by
  intro other hother
  rcases List.mem_append.1 hother with hother | hother
  · exact h other hother
  · rwa [List.mem_singleton.1 hother]

theorem Securable.addBuilt {ε : Type} {built : Except ε Listener} (h : d.Securable)
    (hbuilt : ∀ l, built = .ok l → l.Securable) : (d.addBuilt built).Securable := by
  cases built with
  | error e => exact h
  | ok l => exact h.addListener (hbuilt l rfl)

/-- Sizes and counts have nothing to do with listeners. -/
theorem listeners_applySizes (s : Settings) (d : ServerDraft) :
    (s.applySizes d).config.listeners = d.config.listeners := by
  have hedit : ∀ {α : Type} (set : ServerDraft → α → ServerDraft) (value : Option α)
      (d : ServerDraft), (∀ d a, (set d a).config.listeners = d.config.listeners) →
      (Settings.edit set value d).config.listeners = d.config.listeners := by
    intro α set value d hset
    cases value with
    | none => rfl
    | some a => exact hset d a
  rw [Settings.applySizes, hedit setDirect _ _ fun _ _ => rfl,
    hedit setWorkerThreads _ _ fun _ _ => rfl, hedit setIoThreads _ _ fun _ _ => rfl,
    hedit setPerRegion _ _ fun _ _ => rfl, hedit setBufferSize _ _ fun _ _ => rfl,
    hedit withMemory _ _ fun _ _ => rfl]

theorem Securable.addListeners {ls : List ListenerSettings} (h : d.Securable) :
    (Settings.addListeners files ls d).1.Securable := by
  induction ls generalizing d with
  | nil => exact h
  | cons l ls ih =>
    rw [Settings.addListeners]
    cases hl : l.draft.build files with
    | error e => exact h
    | ok built => exact ih (h.addListener (ListenerDraft.securable_of_build hl))

theorem Securable.edit (h : d.Securable) (e : DraftEdit) : (d.edit e).Securable := by
  cases e with
  | http port host => exact h.addListener ⟨nofun, nofun⟩
  | ajp port host => exact h.addListener ⟨nofun, nofun⟩
  | https port host files material =>
    refine h.addBuilt fun l hl => ?_
    cases hmaterial : material.build files with
    | error fault =>
      rw [hmaterial] at hl
      cases hl
    | ok s =>
      rw [hmaterial] at hl
      obtain rfl := Except.ok.inj hl
      refine ⟨fun _ => nofun, fun s' hs' => ?_⟩
      obtain rfl := Option.some.inj hs'
      exact SecurityDraft.verifiable_of_build hmaterial
  | listener files l => exact h.addBuilt fun _ hl => ListenerDraft.securable_of_build hl
  | settings files s =>
    refine Securable.addListeners ?_
    rw [Securable, listeners_applySizes]
    exact h
  -- The other edits leave the listeners alone.
  | _ => exact h

/-- However a draft is edited, its listeners can be secured. -/
theorem securable_edits (memory parallelism : Nat) (es : List DraftEdit) :
    ((forMachine memory parallelism).edits es).Securable := by
  have hkeep : ∀ d : ServerDraft, d.Securable → (d.edits es).Securable := by
    induction es with
    | nil => exact fun d h => h
    | cons e es ih => exact fun d h => ih _ (h.edit e)
  exact hkeep _ fun l hl => absurd hl List.not_mem_nil

end ServerDraft

/-! ### What building a draft sees to -/

/-- Sizes and counts pass when they are positive and there is a listener. -/
theorem ServerConfig.checkSizes_eq_ok_iff (c : ServerConfig) :
    c.checkSizes = .ok () ↔ (∀ p ∈ c.positives, 0 < p.2) ∧ c.listeners ≠ [] := by
  have hpositive : ∀ p, checkPositive p = .ok () ↔ 0 < p.2 := by
    intro p
    rw [checkPositive, Nat.pos_iff_ne_zero]
    split <;> simp [*]
  have hlisteners : (if c.listeners.isEmpty then throw SizeFault.noListener else pure ())
      = (.ok () : Except SizeFault Unit) ↔ c.listeners ≠ [] := by
    cases c.listeners <;> simp [throw, throwThe, MonadExceptOf.throw, pure, Except.pure]
  rw [checkSizes, andThen_eq_ok_iff, hlisteners]
  simp only [List.forM_eq_forM, forM_eq_ok_iff, hpositive]

/-- A listener passes when it has a host and there is a codec for it. -/
theorem ServerConfig.checkListener_eq_ok_iff (c : ServerConfig) (l : Listener) :
    c.checkListener l = .ok () ↔ Text.isBlankText l.host = false ∧
      (l.protocol = .ajp → c.hasCodec .ajp = true) := by
  rw [checkListener]
  cases Text.isBlankText l.host <;> cases c.hasCodec .ajp <;> simp

/-- A configuration passes when its sizes and counts are positive, when it has listeners, each of
    them with a host and a codec, and when its virtual hosts pass. -/
theorem ServerConfig.check_eq_ok_iff (c : ServerConfig) :
    c.check = .ok () ↔
      ((∀ p ∈ c.positives, 0 < p.2) ∧ c.listeners ≠ []) ∧
        (∀ l ∈ c.listeners, Text.isBlankText l.host = false ∧
          (l.protocol = .ajp → c.hasCodec .ajp = true)) ∧ c.hosts.check = .ok () := by
  simp only [check, andThen_eq_ok_iff, mapError_eq_ok_iff, List.forM_eq_forM, forM_eq_ok_iff,
    checkSizes_eq_ok_iff, checkListener_eq_ok_iff]

end Gatehouse.Config
