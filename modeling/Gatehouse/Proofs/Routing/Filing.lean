import Gatehouse.Proofs.Routing.Covering
import Mathlib.Data.List.Basic
import Mathlib.Data.List.Induction

namespace Gatehouse.Routing

/-!
# Filing in order

A table made by filing values one after another holds, under every key, the value that was filed
there last.

* `lastUnder?` — the last of some filings under a key;
* `fileAll` — the table after some filings; `mem_fileAll_iff`, `find?_fileAll`,
  `pairwise_keys_fileAll` — what it holds, what is found in it, and in which order;
* `fileAll_map`, `fileAll_eq_self` — renaming keys, and filing a finished table again;
* `PathTable.ofRoutes` — the path table of some registrations; `PathTable.mem_ofRoutes_iff` —
  what it holds.
-/

section

variable {κ β : Type} [DecidableEq κ]

/-- The value filed last under a key. -/
def lastUnder? (filings : List (κ × β)) (key : κ) : Option β :=
  ((filings.filter (·.1 = key)).getLast?).map (·.2)

/-- The table after some filings. -/
def fileAll (filings : List (κ × β)) : List (κ × β) :=
  filings.foldl (fun es f => putEntry f.1 f.2 es) []

@[simp] theorem fileAll_nil : fileAll ([] : List (κ × β)) = [] := rfl

/-- Filing one value more. -/
theorem fileAll_append_singleton (filings : List (κ × β)) (f : κ × β) :
    fileAll (filings ++ [f]) = putEntry f.1 f.2 (fileAll filings) := by
  rw [fileAll, List.foldl_append]
  rfl

/-- One value more is the last under its own key and changes nothing under the others. -/
theorem lastUnder?_append_singleton (filings : List (κ × β)) (f : κ × β) (key : κ) :
    lastUnder? (filings ++ [f]) key = if f.1 = key then some f.2 else lastUnder? filings key := by
  by_cases h : f.1 = key <;> simp [lastUnder?, List.filter_append, h]

/-- Nothing was filed last exactly where nothing was filed. -/
theorem lastUnder?_eq_none_iff (filings : List (κ × β)) (key : κ) :
    lastUnder? filings key = none ↔ key ∉ filings.map (·.1) := by
  rw [lastUnder?, Option.map_eq_none_iff, List.getLast?_eq_none_iff, List.filter_eq_nil_iff,
    List.mem_map]
  constructor
  · rintro h ⟨f, hf, hk⟩
    exact h f hf (decide_eq_true hk)
  · intro h f hf hk
    exact h ⟨f, hf, of_decide_eq_true hk⟩

/-- What was filed last was filed. -/
theorem mem_of_lastUnder? {filings : List (κ × β)} {key : κ} {value : β}
    (h : lastUnder? filings key = some value) : (key, value) ∈ filings := by
  obtain ⟨f, hf, rfl⟩ := Option.map_eq_some_iff.1 h
  obtain ⟨hmem, hkey⟩ := List.mem_filter.1 (List.mem_of_getLast? hf)
  rw [← of_decide_eq_true hkey]
  exact hmem

/-- No key occurs twice. -/
theorem nodup_keys_fileAll (filings : List (κ × β)) : ((fileAll filings).map (·.1)).Nodup := by
  induction filings using List.reverseRecOn with
  | nil => simp
  | append_singleton filings f ih =>
    rw [fileAll_append_singleton]
    exact nodup_keys_putEntry f.1 f.2 ih

/-- Under every key is the value filed there last. -/
theorem mem_fileAll_iff (filings : List (κ × β)) (key : κ) (value : β) :
    (key, value) ∈ fileAll filings ↔ lastUnder? filings key = some value := by
  induction filings using List.reverseRecOn with
  | nil => simp [lastUnder?]
  | append_singleton filings f ih =>
    rw [fileAll_append_singleton, mem_putEntry_iff (nodup_keys_fileAll filings),
      lastUnder?_append_singleton]
    by_cases h : key = f.1
    · rw [if_pos h, if_pos h.symm, Option.some.injEq, eq_comm]
    · rw [if_neg h, if_neg (Ne.symm h), ih]

/-- The keys of the table are those that were filed. -/
theorem mem_keys_fileAll_iff (filings : List (κ × β)) (key : κ) :
    key ∈ (fileAll filings).map (·.1) ↔ key ∈ filings.map (·.1) := by
  -- A key was filed exactly when something was filed there last.
  rw [← Classical.not_not (a := key ∈ filings.map (·.1)), ← lastUnder?_eq_none_iff,
    ← Ne, Option.ne_none_iff_exists', List.mem_map]
  simp only [← mem_fileAll_iff]
  constructor
  · rintro ⟨e, he, rfl⟩
    exact ⟨e.2, he⟩
  · rintro ⟨value, he⟩
    exact ⟨(key, value), he, rfl⟩

/-- What is found under a key is what was filed there last. -/
theorem find?_fileAll (filings : List (κ × β)) (key : κ) :
    ((fileAll filings).find? (·.1 = key)).map (·.2) = lastUnder? filings key := by
  cases hfound : (fileAll filings).find? (·.1 = key) with
  | none =>
    have hnot : key ∉ filings.map (·.1) := by
      rw [← mem_keys_fileAll_iff, List.mem_map]
      rintro ⟨e, he, hkey⟩
      exact List.find?_eq_none.1 hfound e he (decide_eq_true hkey)
    exact ((lastUnder?_eq_none_iff filings key).2 hnot).symm
  | some e =>
    have hkey : e.1 = key := by simpa using List.find?_some hfound
    have hmem : (key, e.2) ∈ fileAll filings := hkey ▸ List.mem_of_find?_eq_some hfound
    exact ((mem_fileAll_iff filings key e.2).1 hmem).symm

/-- Keys are in the order in which they were filed first. -/
theorem pairwise_keys_fileAll (filings : List (κ × β)) :
    ((fileAll filings).map (·.1)).Pairwise
      fun a b => (filings.map (·.1)).idxOf a < (filings.map (·.1)).idxOf b := by
  induction filings using List.reverseRecOn with
  | nil => exact .nil
  | append_singleton filings f ih =>
    have hmem : ∀ a ∈ (fileAll filings).map (·.1), a ∈ filings.map (·.1) := fun a ha =>
      (mem_keys_fileAll_iff filings a).1 ha
    -- One filing more does not move what was filed before.
    have hkept : ((fileAll filings).map (·.1)).Pairwise fun a b =>
        ((filings ++ [f]).map (·.1)).idxOf a < ((filings ++ [f]).map (·.1)).idxOf b := by
      refine ih.imp_of_mem fun {a b} ha hb hlt => ?_
      rwa [List.map_append, List.idxOf_append_of_mem (hmem a ha),
        List.idxOf_append_of_mem (hmem b hb)]
    rw [fileAll_append_singleton, keys_putEntry]
    split
    · exact hkept
    · next hnew =>
      refine List.pairwise_append.2 ⟨hkept, List.pairwise_singleton _ _, fun a ha b hb => ?_⟩
      obtain rfl := List.mem_singleton.1 hb
      have hnot : f.1 ∉ filings.map (·.1) := fun hf =>
        hnew ((mem_keys_fileAll_iff filings f.1).2 hf)
      rw [List.map_append, List.idxOf_append_of_mem (hmem a ha),
        List.idxOf_append_of_notMem hnot]
      exact Nat.lt_add_right _ (List.idxOf_lt_length_of_mem (hmem a ha))

/-- Renaming keys apart commutes with filing. -/
theorem putEntry_map {κ' β' : Type} [DecidableEq κ'] {f : κ → κ'} (hf : ∀ a b, f a = f b → a = b)
    (g : β → β') (key : κ) (value : β) (es : List (κ × β)) :
    (putEntry key value es).map (Prod.map f g)
      = putEntry (f key) (g value) (es.map (Prod.map f g)) := by
  induction es with
  | nil => rfl
  | cons e es ih =>
    by_cases h : e.1 = key
    · simp [putEntry, h]
    · have hne : f e.1 ≠ f key := fun he => h (hf _ _ he)
      simp [putEntry, h, hne, ih]

/-- Renaming keys apart commutes with filing a whole list. -/
theorem fileAll_map {κ' β' : Type} [DecidableEq κ'] {f : κ → κ'} (hf : ∀ a b, f a = f b → a = b)
    (g : β → β') (filings : List (κ × β)) :
    (fileAll filings).map (Prod.map f g) = fileAll (filings.map (Prod.map f g)) := by
  induction filings using List.reverseRecOn with
  | nil => rfl
  | append_singleton filings e ih =>
    rw [fileAll_append_singleton, putEntry_map hf, ih, List.map_append, List.map_singleton,
      fileAll_append_singleton]
    rfl

/-- A new key is filed at the end. -/
theorem putEntry_of_notMem {key : κ} {value : β} {es : List (κ × β)}
    (h : key ∉ es.map (·.1)) : putEntry key value es = es ++ [(key, value)] := by
  induction es with
  | nil => rfl
  | cons e es ih =>
    rw [List.map_cons, List.mem_cons, not_or] at h
    rw [putEntry, if_neg (Ne.symm h.1), ih h.2, List.cons_append]

/-- A table with different keys comes out as it is when it is filed again. -/
theorem fileAll_eq_self {es : List (κ × β)} (h : (es.map (·.1)).Nodup) : fileAll es = es := by
  induction es using List.reverseRecOn with
  | nil => rfl
  | append_singleton es e ih =>
    rw [List.map_append, List.nodup_append] at h
    obtain ⟨hes, _, hne⟩ := h
    have hnot : e.1 ∉ es.map (·.1) := fun hm => hne e.1 hm e.1 (by simp) rfl
    rw [fileAll_append_singleton, ih hes, putEntry_of_notMem hnot]

end

/-! ### Path tables -/

variable {α : Type}

/-- Registered paths as prefixes in the form in which they are filed. -/
def filings (routes : List (String × α)) : List (List Char × α) :=
  routes.map fun r => (normalize r.1.toList, r.2)

/-- The prefixes that some registrations are filed under. -/
def filedKeys (routes : List (String × α)) : List (List Char) := (filings routes).map (·.1)

theorem mem_filedKeys_iff {routes : List (String × α)} {key : List Char} :
    key ∈ filedKeys routes ↔ ∃ r ∈ routes, normalize r.1.toList = key := by
  simp [filedKeys, filings]

/-- No registration is filed under the empty prefix. -/
theorem ne_nil_of_mem_filedKeys {routes : List (String × α)} {key : List Char}
    (h : key ∈ filedKeys routes) : key ≠ [] := by
  obtain ⟨r, _, rfl⟩ := mem_filedKeys_iff.1 h
  exact normalize_ne_nil r.1.toList

namespace PathTable

/-- The table of some registrations, in order. -/
def ofRoutes (routes : List (String × α)) : PathTable α :=
  routes.foldl (fun t r => t.add r.1 r.2) .empty

/-- Its entries are the registrations, filed in order. -/
theorem entries_ofRoutes (routes : List (String × α)) :
    (ofRoutes routes).entries = fileAll (filings routes) := by
  induction routes using List.reverseRecOn with
  | nil => rfl
  | append_singleton routes r ih =>
    rw [filings, List.map_append, List.map_singleton, fileAll_append_singleton, ← filings, ← ih,
      ofRoutes, List.foldl_append]
    rfl

/-- The table holds, under every prefix, the value registered for it last. -/
theorem mem_ofRoutes_iff (routes : List (String × α)) (key : List Char) (value : α) :
    (key, value) ∈ (ofRoutes routes).entries ↔ lastUnder? (filings routes) key = some value := by
  rw [entries_ofRoutes, mem_fileAll_iff]

/-- The prefixes in the table are those that were registered. -/
theorem exists_mem_ofRoutes_iff (routes : List (String × α)) (key : List Char) :
    (∃ value, (key, value) ∈ (ofRoutes routes).entries) ↔ key ∈ filedKeys routes := by
  rw [filedKeys, ← mem_keys_fileAll_iff, ← entries_ofRoutes, List.mem_map]
  constructor
  · rintro ⟨value, h⟩
    exact ⟨(key, value), h, rfl⟩
  · rintro ⟨e, h, rfl⟩
    exact ⟨e.2, h⟩

/-- No prefix in the table is empty. -/
theorem ne_nil_of_mem_ofRoutes (routes : List (String × α)) :
    ∀ e ∈ (ofRoutes routes).entries, e.1 ≠ [] := by
  rintro ⟨key, value⟩ he
  exact ne_nil_of_mem_filedKeys ((exists_mem_ofRoutes_iff routes key).1 ⟨value, he⟩)

end PathTable

end Gatehouse.Routing
