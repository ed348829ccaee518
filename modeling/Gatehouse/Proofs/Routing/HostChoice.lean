import Gatehouse.Proofs.Checks
import Gatehouse.Routing.Dispatch
import Mathlib.Data.List.Induction

namespace Gatehouse.Routing

/-!
# The choice of host

Which host of a registry a request is served by, said by a search over the registry, and that the
table of names finds it.

* `SameName`, `VirtualHost.AnswersTo` — names are compared letter case aside;
* `Registry.Serves` — the last host that answers to a name, else the only default host;
  `Registry.Serves.unique` — there is one at most;
* `Registry.check_eq_ok_iff`, `build_eq_ok_iff` — which registries are accepted;
* `Registry.exists_serves` — an accepted registry has a host for every request, and the table of
  names finds its handler.
-/

/-- Names that are equal, ASCII letter case aside. -/
def SameName (a b : String) : Prop := Text.lower a.toList = Text.lower b.toList

instance (a b : String) : Decidable (SameName a b) := inferInstanceAs (Decidable (_ = _))

/-- A host answers to its own names, letter case aside. -/
def VirtualHost.AnswersTo (h : VirtualHost) (name : String) : Prop :=
  ∃ own ∈ h.names, SameName own name

instance (h : VirtualHost) (name : String) : Decidable (h.AnswersTo name) :=
  inferInstanceAs (Decidable (∃ own ∈ h.names, SameName own name))

/-- The host that serves a host name: the last one in order that answers to it, or the only default
    host when there is no name or no host answers to it. -/
inductive Registry.Serves (r : Registry) (host : Option String) : VirtualHost → Prop where
  | named {before after : List VirtualHost} {h : VirtualHost} {name : String}
      (named : host = some name) (split : r.hosts = before ++ h :: after)
      (answers : h.AnswersTo name) (last : ∀ later ∈ after, ¬ later.AnswersTo name) :
      Serves r host h
  | default {h : VirtualHost} (only : r.hosts.filter (·.isDefault) = [h])
      (unknown : ∀ name, host = some name → ∀ other ∈ r.hosts, ¬ other.AnswersTo name) :
      Serves r host h

/-- At most one host serves a host name. -/
theorem Registry.Serves.unique {r : Registry} {host : Option String} {g h : VirtualHost}
    (hg : r.Serves host g) (hh : r.Serves host h) : g = h := by
  -- The host served by name is the last one that is left when the others are filtered out.
  have hlast : ∀ {before after : List VirtualHost} {k : VirtualHost} {name : String},
      r.hosts = before ++ k :: after → k.AnswersTo name →
      (∀ later ∈ after, ¬ later.AnswersTo name) →
      (r.hosts.filter (·.AnswersTo name)).getLast? = some k := by
    intro before after k name hsplit hans hafter
    have hnil : after.filter (·.AnswersTo name) = [] := by
      simpa [List.filter_eq_nil_iff] using hafter
    rw [hsplit, List.filter_append, List.filter_cons_of_pos (by simpa using hans), hnil]
    simp
  cases hg with
  | named hname hsplit hans hafter =>
    subst hname
    cases hh with
    | named hname' hsplit' hans' hafter' =>
      obtain rfl := Option.some.inj hname'
      have heq := hlast hsplit hans hafter
      rw [hlast hsplit' hans' hafter'] at heq
      exact (Option.some.inj heq).symm
    | default _ hunknown => exact absurd hans (hunknown _ rfl g (by rw [hsplit]; simp))
  | default honly hunknown =>
    cases hh with
    | named hname' hsplit' hans' _ =>
      exact absurd hans' (hunknown _ hname' h (by rw [hsplit']; simp))
    | default honly' _ =>
      rw [honly] at honly'
      exact List.head_eq_of_cons_eq honly'

/-! ### Accepted registries -/

/-- A host passes its check when it is reachable, no name is blank and no path is empty. -/
theorem VirtualHost.check_eq_ok_iff (h : VirtualHost) :
    h.check = .ok () ↔
      (h.isDefault = true ∨ h.names ≠ []) ∧ (∀ name ∈ h.names, Text.isBlankText name = false) ∧
        ∀ p ∈ h.paths, p.1.isEmpty = false := by
  -- The three tests, each beside the rule that it checks.
  have hreach : (!h.isDefault && h.names.isEmpty) = false ↔
      (h.isDefault = true ∨ h.names ≠ []) := by
    cases h.isDefault <;> simp
  have hblank : h.names.any Text.isBlankText = false ↔
      ∀ name ∈ h.names, Text.isBlankText name = false := by
    simp only [List.any_eq_false, Bool.not_eq_true]
  have hpath : h.paths.any (·.1.isEmpty) = false ↔ ∀ p ∈ h.paths, p.1.isEmpty = false := by
    simp only [List.any_eq_false, Bool.not_eq_true]
  rw [VirtualHost.check, ← hreach, ← hblank, ← hpath]
  cases !h.isDefault && h.names.isEmpty
  · cases h.names.any Text.isBlankText
    · cases h.paths.any (·.1.isEmpty) <;> simp
    · simp
  · simp

/-- A registry passes its check when it has exactly one default host and every host passes. -/
theorem Registry.check_eq_ok_iff (r : Registry) :
    r.check = .ok () ↔
      (r.hosts.filter (·.isDefault)).length = 1 ∧ ∀ h ∈ r.hosts, h.check = .ok () := by
  rw [Registry.check]
  by_cases h : (r.hosts.filter (·.isDefault)).length = 1
  · simp [h, Checks.forM_eq_ok_iff]
  · simp [h]

/-- A registry is built into a handler when it passes its check. -/
theorem build_eq_ok_iff (r : Registry) (handler : Handler) :
    build r = .ok handler ↔ r.check = .ok () ∧ root (dispatch (hostTable r)) = handler := by
  rw [build]
  cases r.check with
  | error e => simp [bind, Except.bind]
  | ok u => simp [bind, Except.bind, pure, Except.pure]

/-! ### The table of names -/

namespace HostTable

variable {α : Type}

/-- The value filed under a name. -/
def find? (t : HostTable α) (name : String) : Option α :=
  (t.byName.find? (·.1 = key name)).map (·.2)

/-- A host name leads to the value filed under it, and otherwise to the fallback. -/
theorem resolve_eq (t : HostTable α) (host : Option String) :
    t.resolve host = (host.bind t.find?).getD t.fallback := by
  cases host <;> rfl

/-- Names have one key exactly when they are equal, letter case aside. -/
theorem key_eq_key_iff (a b : String) : key a = key b ↔ SameName a b := String.ofList_inj

/-- A value is found under the name it was filed under last. -/
theorem find?_add (t : HostTable α) (own name : String) (value : α) :
    (t.add own value).find? name = if SameName own name then some value else t.find? name := by
  by_cases h : key own = key name
  · rw [if_pos ((key_eq_key_iff own name).1 h)]
    simp [find?, add, h]
  · rw [if_neg (fun hs => h ((key_eq_key_iff own name).2 hs))]
    simp [find?, add, h]

/-- A value filed under several names is found under each of them. -/
theorem find?_foldl_add (names : List String) (t : HostTable α) (name : String) (value : α) :
    (names.foldl (fun t own => t.add own value) t).find? name
      = if ∃ own ∈ names, SameName own name then some value else t.find? name := by
  induction names generalizing t with
  | nil => simp
  | cons own names ih =>
    rw [List.foldl_cons, ih, find?_add]
    -- Whether one of the later names answers, or else this one.
    by_cases hrest : ∃ own ∈ names, SameName own name
    · have hall : ∃ o ∈ own :: names, SameName o name := by
        obtain ⟨o, ho, hs⟩ := hrest
        exact ⟨o, List.mem_cons_of_mem own ho, hs⟩
      rw [if_pos hrest, if_pos hall]
    · by_cases hown : SameName own name <;> simp [hown, hrest]

/-- Names do not touch the fallback. -/
theorem fallback_foldl_add (names : List String) (t : HostTable α) (value : α) :
    (names.foldl (fun t own => t.add own value) t).fallback = t.fallback := by
  induction names generalizing t with
  | nil => rfl
  | cons own names ih => rw [List.foldl_cons, ih]; rfl

end HostTable

/-- A host added last is found under every name it answers to. -/
theorem find?_addHost (t : HostTable Handler) (h : VirtualHost) (name : String) :
    (addHost t h).find? name = if h.AnswersTo name then some (hostHandler h) else t.find? name := by
  rw [addHost, HostTable.find?_foldl_add]
  cases h.isDefault <;> rfl

/-- A default host becomes the fallback. -/
theorem fallback_addHost (t : HostTable Handler) (h : VirtualHost) :
    (addHost t h).fallback = if h.isDefault then hostHandler h else t.fallback := by
  rw [addHost, HostTable.fallback_foldl_add]
  cases h.isDefault <;> rfl

/-- The table finds the handler of the last host that answers to a name, or nothing when no host
    does. -/
theorem find?_foldl_addHost (hosts : List VirtualHost) (t : HostTable Handler) (name : String)
    (ht : t.find? name = none) :
    (∃ before h after, hosts = before ++ h :: after ∧ h.AnswersTo name ∧
      (∀ later ∈ after, ¬ later.AnswersTo name) ∧
      (hosts.foldl addHost t).find? name = some (hostHandler h)) ∨
    ((∀ h ∈ hosts, ¬ h.AnswersTo name) ∧ (hosts.foldl addHost t).find? name = none) := by
  -- The last host comes first: the search for the last host that answers ends with it or goes on.
  induction hosts using List.reverseRecOn with
  | nil => exact .inr ⟨fun h hh => absurd hh List.not_mem_nil, ht⟩
  | append_singleton hosts g ih =>
    rw [List.foldl_append, List.foldl_cons, List.foldl_nil, find?_addHost]
    by_cases hg : g.AnswersTo name
    · rw [if_pos hg]
      exact .inl ⟨hosts, g, [], rfl, hg, fun l hl => absurd hl List.not_mem_nil, rfl⟩
    · rw [if_neg hg]
      rcases ih with ⟨before, h, after, rfl, hans, hlast, hfind⟩ | ⟨hnone, hfind⟩
      · refine .inl ⟨before, h, after ++ [g], by simp, hans, ?_, hfind⟩
        intro later hl
        rcases List.mem_append.1 hl with hl | hl
        · exact hlast later hl
        · rwa [List.mem_singleton.1 hl]
      · refine .inr ⟨?_, hfind⟩
        intro h hh
        rcases List.mem_append.1 hh with hh | hh
        · exact hnone h hh
        · rwa [List.mem_singleton.1 hh]

/-- The fallback is the handler of the last default host. -/
theorem fallback_foldl_addHost (hosts : List VirtualHost) (t : HostTable Handler) :
    (hosts.foldl addHost t).fallback
      = (((hosts.filter (·.isDefault)).getLast?).map hostHandler).getD t.fallback := by
  induction hosts using List.reverseRecOn with
  | nil => rfl
  | append_singleton hosts g ih =>
    rw [List.foldl_append, List.foldl_cons, List.foldl_nil, fallback_addHost, ih]
    cases hg : g.isDefault <;> simp [hg]

/-! ### The host of a request -/

/-- An accepted registry has a host for every host name, and its table leads to that host. -/
theorem Registry.exists_serves {r : Registry} (hr : r.check = .ok ()) (host : Option String) :
    ∃ h ∈ r.hosts, r.Serves host h ∧ (hostTable r).resolve host = hostHandler h := by
  obtain ⟨hone, -⟩ := r.check_eq_ok_iff.1 hr
  obtain ⟨d, hd⟩ := List.length_eq_one_iff.1 hone
  have hmem : d ∈ r.hosts := (List.mem_filter.1 (by rw [hd]; exact List.mem_singleton_self d)).1
  -- The only default host is the last one, so it is the one that the table falls back to.
  have hfall : (hostTable r).fallback = hostHandler d := by
    rw [hostTable, fallback_foldl_addHost, hd]
    rfl
  rw [HostTable.resolve_eq]
  cases host with
  | none => exact ⟨d, hmem, .default hd (fun name hn => by simp at hn), hfall⟩
  | some name =>
    rcases find?_foldl_addHost r.hosts (.ofFallback notFoundHandler) name rfl with
      ⟨before, h, after, hsplit, hans, hlast, hfind⟩ | ⟨hnone, hfind⟩
    · refine ⟨h, by rw [hsplit]; simp, .named rfl hsplit hans hlast, ?_⟩
      rw [Option.bind_some, hostTable, hfind, Option.getD_some]
    · refine ⟨d, hmem, .default hd ?_, ?_⟩
      · intro n hn
        rw [← Option.some.inj hn]
        exact hnone
      · rw [Option.bind_some, hostTable, hfind, Option.getD_none]
        exact hfall

end Gatehouse.Routing
