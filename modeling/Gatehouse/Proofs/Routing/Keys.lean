import Gatehouse.Proofs.Routing.Registration

namespace Gatehouse.Routing

/-!
# Keys of paths

Paths are registered in many spellings and filed under one key. The path table of a host files the
keys once more.

* `pathKey_form`, `HostPlan.keys` — the form of a key, and the keys of all registrations;
* `HostPlan.pathHandler?_host` — the endpoint that is found under any spelling of a key;
* `HostPlan.registered_by_key` — the paths of a host and its path table, by its registrations.
-/

/-- A key other than the empty one has the form of a filed prefix. -/
theorem pathKey_form {path : String} (h : path ≠ "") :
    normalize (pathKey path).toList = (pathKey path).toList ∧
      (pathKey path).toList.head? = some '/' ∧
      ((pathKey path).toList.getLast? = some '/' → pathKey path = "/") := by
  have hempty : path.isEmpty = false := by
    rw [← Bool.not_eq_true, String.isEmpty_iff]
    exact h
  have hkey := toList_pathKey hempty
  have hroot : normalize path.toList = ['/'] → pathKey path = "/" := by
    intro hroot
    rw [← String.toList_inj, hkey, hroot]
    rfl
  rw [hkey, normalize_normalize]
  refine ⟨rfl, ?_⟩
  rcases normalize_shape path.toList with hshape | ⟨cs, hshape, hlast⟩
  · exact ⟨by rw [hshape]; rfl, fun _ => hroot hshape⟩
  · rw [hshape]
    exact ⟨rfl, fun hslash => absurd hslash hlast⟩

namespace HostPlan

/-- The keys that paths were registered under, one for each registration. -/
def keys (p : HostPlan) : List String := p.registered.map fun r => pathKey r.1

theorem keys_eq (p : HostPlan) : p.keys = (p.registered.map (Prod.map pathKey id)).map (·.1) := by
  rw [keys, List.map_map]
  rfl

/-- The endpoint of a path is the one registered last under its key. -/
theorem pathHandler?_host (p : HostPlan) (path : String) : p.host.pathHandler? path =
    ((p.registered.filter fun r => pathKey r.1 = pathKey path).getLast?).map (·.2) := by
  rw [VirtualHost.pathHandler?, paths_host, find?_fileAll, lastUnder?, List.filter_map,
    List.getLast?_map, Option.map_map]
  rfl

/-- The paths of a host, by its registrations. Each key is there once, and is the empty one of an
    empty path or has the form of a filed prefix. The keys are those that were registered, in the
    order of their first spellings, and under each is the endpoint registered last with any of its
    spellings. Unless an empty path was registered, the path table of the host has these keys and
    handlers, as they are and in this order. -/
theorem registered_by_key (p : HostPlan) :
    (p.host.paths.map (·.1)).Nodup ∧
    (∀ key ∈ p.host.paths.map (·.1),
      (key = "" ∧ ∃ r ∈ p.registered, r.1 = "") ∨
      (normalize key.toList = key.toList ∧ key.toList.head? = some '/' ∧
        (key.toList.getLast? = some '/' → key = "/"))) ∧
    (∀ key, key ∈ p.host.paths.map (·.1) ↔ key ∈ p.keys) ∧
    (p.host.paths.map (·.1)).Pairwise (fun a b => p.keys.idxOf a < p.keys.idxOf b) ∧
    (∀ path, p.host.pathHandler? path =
      ((p.registered.filter fun r => pathKey r.1 = pathKey path).getLast?).map (·.2)) ∧
    ((∀ r ∈ p.registered, r.1 ≠ "") →
      (pathTable p.host).entries = p.host.paths.map (Prod.map String.toList (·.handler))) := by
  have hmem : ∀ key, key ∈ p.host.paths.map (·.1) ↔ key ∈ p.keys := by
    intro key
    rw [paths_host, mem_keys_fileAll_iff, keys_eq]
  refine ⟨?_, ?_, hmem, ?_, p.pathHandler?_host, ?_⟩
  · rw [paths_host]
    exact nodup_keys_fileAll _
  · intro key hkey
    rw [hmem] at hkey
    obtain ⟨r, hr, rfl⟩ := List.mem_map.1 hkey
    by_cases hempty : r.1 = ""
    · exact .inl ⟨by rw [hempty]; rfl, r, hr, hempty⟩
    · exact .inr (pathKey_form hempty)
  · rw [paths_host, keys_eq]
    exact pairwise_keys_fileAll _
  · intro hnone
    have hnone' : ∀ r ∈ p.registered, r.1.isEmpty = false := by
      intro r hr
      rw [← Bool.not_eq_true, String.isEmpty_iff]
      exact hnone r hr
    rw [pathTable_host hnone', PathTable.entries_ofRoutes, map_paths_host hnone']

/-- Two keys in several spellings, with other edits in between. -/
def spellings : HostPlan where
  isDefault := true
  edits :=
    [.path "api" ⟨some "first", notFoundHandler⟩, .name "localhost",
      .path "//" ⟨some "root", notFoundHandler⟩, .path "/api//" ⟨some "second", notFoundHandler⟩,
      .path "/" ⟨some "home", notFoundHandler⟩, .fallback .notFound,
      .path "/api" ⟨some "third", notFoundHandler⟩]

/-- The spellings are filed under two keys, in the path table too. -/
theorem registered_by_key_spellings :
    spellings.host.paths.map (·.1) = ["/api", "/"] ∧
      (spellings.host.pathHandler? "api/").bind (·.label) = some "third" ∧
      (pathTable spellings.host).entries.map (·.1) = ["/api".toList, "/".toList] := by
  obtain ⟨-, -, -, -, hfound, htable⟩ := registered_by_key spellings
  have hpaths : spellings.host.paths.map (·.1) = ["/api", "/"] := by decide +kernel
  refine ⟨hpaths, ?_, ?_⟩
  · rw [hfound]
    decide +kernel
  · have hnone : ∀ r ∈ spellings.registered, r.1 ≠ "" := by simp [spellings, registered]
    rw [htable hnone, List.map_map]
    have hkeys := congrArg (List.map String.toList) hpaths
    rwa [List.map_map] at hkeys

end HostPlan

end Gatehouse.Routing
