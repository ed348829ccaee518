import Gatehouse.Proofs.Routing.HostChoice
import Gatehouse.Proofs.Routing.Lookup

namespace Gatehouse.Routing

open Http

/-!
# Hosts by their edits

A host is made by edits in any order: names, path handlers, wrappers and fallbacks are added to a
fresh host. What it holds in the end is read off the edits.

* `HostEdit`, `HostPlan` — the edits of a host, and the host they make;
* `HostPlan.host_eq` — every part of the host, by the edits;
* `HostPlan.map_paths_host`, `HostPlan.pathTable_host` — its paths, and its path table, by its
  registrations;
* `RegistryEdit`, `Registry.exists_plans_of_edits` — however the edits of a registry are mixed, it
  ends up with hosts that are each made by their own edits.
-/

/-- The key of a path has the form of a filed prefix, unless the path is empty. -/
theorem toList_pathKey {path : String} (h : path.isEmpty = false) :
    (pathKey path).toList = normalize path.toList := by
  rw [pathKey, h, if_neg nofun, String.toList_ofList]

/-- One edit of a host. -/
inductive HostEdit where
  | name (name : String)
  | path (path : String) (endpoint : Endpoint)
  | fallback (endpoint : Endpoint)
  | wrapper (wrapper : Wrapper)

/-- Makes one edit. -/
def VirtualHost.edit (h : VirtualHost) : HostEdit → VirtualHost
  | .name n => h.addName n
  | .path p e => h.addPath p e
  | .fallback e => h.setFallback e
  | .wrapper w => h.addWrapper w

/-- The path table of a host is that of its paths. -/
theorem pathTable_eq_ofRoutes (h : VirtualHost) :
    pathTable h = .ofRoutes (h.paths.map (Prod.map id (·.handler))) := by
  rw [pathTable, PathTable.ofRoutes, List.foldl_map]
  rfl

/-- A host to be made: whether it is a default host, and its edits in order. -/
structure HostPlan where
  isDefault : Bool
  edits : List HostEdit

namespace HostPlan

/-- The host that the edits make. -/
def host (p : HostPlan) : VirtualHost :=
  p.edits.foldl VirtualHost.edit (if p.isDefault then .catchAll else .named)

/-- The names added. -/
def names (p : HostPlan) : List String :=
  p.edits.filterMap fun | .name n => some n | _ => none

/-- The paths registered, each with its endpoint. -/
def registered (p : HostPlan) : List (String × Endpoint) :=
  p.edits.filterMap fun | .path path e => some (path, e) | _ => none

/-- The wrappers added. -/
def wrappers (p : HostPlan) : List Wrapper :=
  p.edits.filterMap fun | .wrapper w => some w | _ => none

/-- The fallback set last. -/
def fallback (p : HostPlan) : Endpoint :=
  ((p.edits.filterMap fun | .fallback e => some e | _ => none).getLast?).getD .notFound

/-- The paths registered, each with its handler. -/
def routes (p : HostPlan) : List (String × Handler) := p.registered.map (Prod.map id (·.handler))

/-- Every part of the host is what the edits of its kind make of it. -/
theorem host_eq (p : HostPlan) :
    p.host = ⟨p.names, fileAll (p.registered.map (Prod.map pathKey id)), p.wrappers, p.isDefault,
      p.fallback⟩ := by
  obtain ⟨d, edits⟩ := p
  simp only [host, names, registered, wrappers, fallback]
  -- The last edit is added to the part of its kind and leaves the other parts alone.
  induction edits using List.reverseRecOn with
  | nil => cases d <;> rfl
  | append_singleton edits e ih =>
    rw [List.foldl_append, List.foldl_cons, List.foldl_nil, ih]
    cases e with
    | name n => simp [VirtualHost.edit, VirtualHost.addName]
    | path path e =>
      simp [VirtualHost.edit, VirtualHost.addPath, fileAll_append_singleton]
    | fallback e => simp [VirtualHost.edit, VirtualHost.setFallback]
    | wrapper w => simp [VirtualHost.edit, VirtualHost.addWrapper]

@[simp] theorem names_host (p : HostPlan) : p.host.names = p.names := by rw [host_eq]

@[simp] theorem wrappers_host (p : HostPlan) : p.host.wrappers = p.wrappers := by rw [host_eq]

@[simp] theorem isDefault_host (p : HostPlan) : p.host.isDefault = p.isDefault := by rw [host_eq]

@[simp] theorem fallback_host (p : HostPlan) : p.host.fallback = p.fallback := by rw [host_eq]

/-- The paths of a host are filed under their keys, in order. -/
theorem paths_host (p : HostPlan) :
    p.host.paths = fileAll (p.registered.map (Prod.map pathKey id)) := by rw [host_eq]

/-- A host whose paths pass the check had no empty path registered. -/
theorem ne_empty_of_check {p : HostPlan} (h : p.host.check = .ok ()) :
    ∀ r ∈ p.registered, r.1.isEmpty = false := by
  obtain ⟨-, -, hpaths⟩ := (VirtualHost.check_eq_ok_iff _).1 h
  intro r hr
  -- An empty path would still be there under its own key.
  by_cases hempty : r.1.isEmpty = true
  · have hkey : pathKey r.1 = r.1 := by rw [pathKey, if_pos hempty]
    have hfiled : r.1 ∈ (p.registered.map (Prod.map pathKey id)).map (·.1) := by
      rw [List.map_map]
      exact List.mem_map.2 ⟨r, hr, hkey⟩
    rw [← mem_keys_fileAll_iff, ← paths_host] at hfiled
    obtain ⟨q, hq, hqr⟩ := List.mem_map.1 hfiled
    rw [← hqr]
    exact hpaths q hq
  · exact Bool.not_eq_true _ ▸ hempty

/-- With no empty path registered, the paths of the host are the registrations, filed in order under
    their prefixes. -/
theorem map_paths_host {p : HostPlan} (h : ∀ r ∈ p.registered, r.1.isEmpty = false) :
    p.host.paths.map (Prod.map String.toList (·.handler)) = fileAll (filings p.routes) := by
  have hkey : ∀ r ∈ p.registered, (pathKey r.1).toList = normalize r.1.toList := fun r hr =>
    toList_pathKey (h r hr)
  rw [paths_host, fileAll_map (fun a b hab => String.toList_inj.1 hab), List.map_map, filings,
    routes, List.map_map]
  congr 1
  exact List.map_congr_left fun r hr => Prod.ext (hkey r hr) rfl

/-- The paths of the host are filed under the form of a filed prefix already, so that filing them
    again leaves them as they are. -/
theorem filings_paths_host {p : HostPlan} (h : ∀ r ∈ p.registered, r.1.isEmpty = false) :
    filings (p.host.paths.map (Prod.map id (·.handler))) = fileAll (filings p.routes) := by
  have hpaths := map_paths_host h
  rw [← hpaths, filings, List.map_map]
  refine List.map_congr_left fun q hq => ?_
  have hfiled : q.1.toList ∈ (fileAll (filings p.routes)).map (·.1) := by
    rw [← hpaths, List.map_map]
    exact List.mem_map.2 ⟨q, hq, rfl⟩
  rw [mem_keys_fileAll_iff] at hfiled
  obtain ⟨r, -, hr⟩ := mem_filedKeys_iff.1 hfiled
  simp only [Function.comp_apply, Prod.map, id_eq, ← hr, normalize_normalize]

/-- With no empty path registered, the path table is that of the registrations. -/
theorem pathTable_host {p : HostPlan} (h : ∀ r ∈ p.registered, r.1.isEmpty = false) :
    pathTable p.host = .ofRoutes p.routes := by
  have hentries : (pathTable p.host).entries = (PathTable.ofRoutes p.routes).entries := by
    rw [pathTable_eq_ofRoutes, PathTable.entries_ofRoutes, PathTable.entries_ofRoutes,
      filings_paths_host h, fileAll_eq_self (nodup_keys_fileAll _)]
  cases ht : pathTable p.host
  cases hr : PathTable.ofRoutes p.routes
  rw [ht, hr] at hentries
  exact congrArg PathTable.mk hentries

end HostPlan

/-! ### Registries -/

/-- The registry of some planned hosts, in order. -/
def Registry.ofPlans (plans : List HostPlan) : Registry := ⟨plans.map HostPlan.host⟩

/-- One edit of a registry: an edit of its first host, or a new host with its edits. -/
inductive RegistryEdit where
  | first (edit : HostEdit)
  | push (isDefault : Bool) (edits : List HostEdit)

/-- Makes one edit. -/
def Registry.edit (r : Registry) : RegistryEdit → Registry
  | .first e => r.editFirst (·.edit e)
  | .push isDefault edits => r.push (HostPlan.host ⟨isDefault, edits⟩)

/-- However its edits are mixed, a registry holds planned hosts. -/
theorem Registry.exists_plans_of_edits (edits : List RegistryEdit) :
    ∃ plans, edits.foldl Registry.edit .start = .ofPlans plans := by
  -- An edit of the first host is an edit more of its plan; a new host is a plan more.
  have hkeep : ∀ plans, ∃ plans', edits.foldl Registry.edit (.ofPlans plans) = .ofPlans plans' := by
    induction edits with
    | nil => exact fun plans => ⟨plans, rfl⟩
    | cons e edits ih =>
      intro plans
      cases e with
      | first e =>
        cases plans with
        | nil => exact ih []
        | cons p plans =>
          have hstep : (Registry.ofPlans (p :: plans)).edit (.first e)
              = .ofPlans (⟨p.isDefault, p.edits ++ [e]⟩ :: plans) := by
            simp [Registry.edit, Registry.editFirst, Registry.ofPlans, HostPlan.host]
          rw [List.foldl_cons, hstep]
          exact ih _
      | push isDefault es =>
        have hstep : (Registry.ofPlans plans).edit (.push isDefault es)
            = .ofPlans (plans ++ [⟨isDefault, es⟩]) := by
          simp [Registry.edit, Registry.push, Registry.ofPlans]
        rw [List.foldl_cons, hstep]
        exact ih _
  exact hkeep [⟨true, []⟩]

end Gatehouse.Routing
