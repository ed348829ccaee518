import Gatehouse.Text.Utf8

namespace Gatehouse.Routing

/-!
# Path tables

Values filed under path prefixes. A prefix covers a path on segment boundaries only: `/api` covers
`/api` and `/api/users`, not `/apis`.

* `normalize` — the form in which prefixes are filed: a slash in front, none at the end;
* `putEntry` — files a value under a key of an ordered table;
* `PathTable.add` — files a value, replacing the one filed under the same prefix;
* `PathTable.ancestor?` — the longest filed prefix of a text, whatever the boundary;
* `PathTable.resolve?` — the longest filed prefix that covers a path;
* `relativePart` — what a prefix leaves of a path.

`resolve?` looks up the longest filed prefix of a probe, which starts as the whole path. A hit that
ends inside a segment shortens the probe to just below the hit, at a character boundary.
-/

/-- Drops every slash at the end. -/
def dropSlashes (path : List Char) : List Char :=
  (path.reverse.dropWhile (· == '/')).reverse

/-- The form in which a prefix is filed: a slash in front and none at the end; an empty path and a
    path of slashes only become `/`. -/
def normalize (path : List Char) : List Char :=
  let trimmed := dropSlashes path
  match trimmed with
  | [] => ['/']
  | '/' :: _ => trimmed
  | _ => '/' :: trimmed

/-! ### Tables in order of filing -/

section

variable {κ β : Type} [DecidableEq κ]

/-- Replaces the value under a key, or adds the key at the end. -/
def putEntry (key : κ) (value : β) : List (κ × β) → List (κ × β)
  | [] => [(key, value)]
  | e :: es => if e.1 = key then (key, value) :: es else e :: putEntry key value es

/-- A key that is filed again keeps its place, a new key comes last. -/
theorem keys_putEntry (key : κ) (value : β) (es : List (κ × β)) :
    (putEntry key value es).map (·.1)
      = if key ∈ es.map (·.1) then es.map (·.1) else es.map (·.1) ++ [key] := by
  induction es with
  | nil => rfl
  | cons e es ih =>
    simp only [putEntry]
    by_cases h : e.1 = key
    · simp [h]
    · have hne : key ≠ e.1 := fun he => h he.symm
      rw [if_neg h, List.map_cons, ih]
      by_cases hk : key ∈ es.map (·.1) <;> simp [hk, hne]

/-- Filing does not make a key occur twice. -/
theorem nodup_keys_putEntry (key : κ) (value : β) {es : List (κ × β)}
    (h : (es.map (·.1)).Nodup) : ((putEntry key value es).map (·.1)).Nodup := by
  rw [keys_putEntry]
  split
  · exact h
  · rename_i hk
    refine List.nodup_append.2 ⟨h, by simp, ?_⟩
    intro a ha b hb
    rw [List.mem_singleton.1 hb]
    exact fun he => hk (he ▸ ha)

/-- Under the key is the new value, under any other key what was there. -/
theorem mem_putEntry_iff {key k : κ} {value v : β} {es : List (κ × β)}
    (h : (es.map (·.1)).Nodup) :
    (k, v) ∈ putEntry key value es ↔ if k = key then v = value else (k, v) ∈ es := by
  induction es with
  | nil => by_cases hk : k = key <;> simp [putEntry, hk]
  | cons e es ih =>
    rw [List.map_cons] at h
    obtain ⟨hnot, hes⟩ := List.nodup_cons.1 h
    have hout : ∀ w, (e.1, w) ∉ es := fun w hw => hnot (List.mem_map.2 ⟨(e.1, w), hw, rfl⟩)
    simp only [putEntry]
    by_cases he : e.1 = key
    · subst he
      by_cases hk : k = e.1
      · subst hk
        simp [hout]
      · have hkv : (k, v) ≠ e := fun hh => hk (congrArg Prod.fst hh)
        simp [hk, hkv]
    · rw [if_neg he, List.mem_cons, ih hes, List.mem_cons]
      by_cases hk : k = key
      · have hkv : (k, v) ≠ e := fun hh => he (by rw [← hh, ← hk])
        simp [hk, hk ▸ hkv]
      · simp [hk]

end

/-! ### Path tables -/

/-- A table of values under normalized prefixes, each prefix once. -/
structure PathTable (α : Type) where
  entries : List (List Char × α)
  deriving Repr

namespace PathTable

variable {α : Type}

/-- The table without entries. -/
def empty : PathTable α := ⟨[]⟩

/-- Files a value under a path. -/
def add (t : PathTable α) (path : String) (value : α) : PathTable α :=
  ⟨putEntry (normalize path.toList) value t.entries⟩

/-- The longest key that the text starts with, with its value. -/
def ancestor? (t : PathTable α) (text : List Char) : Option (List Char × α) :=
  t.entries.foldl (fun best e =>
    if e.1.isPrefixOf text then
      match best with
      | some b => if b.1.length < e.1.length then some e else best
      | none => some e
    else best) none

/-- Whether a prefix of the path ends on a segment boundary: it is the root, the whole path, or
    followed by a slash. -/
def endsSegment (path key : List Char) : Bool :=
  key == ['/'] || Utf8.size path == Utf8.size key
    || Utf8.byteAt? path (Utf8.size key) == some 0x2F

/-- The probe that comes after a hit inside a segment: cut just below the hit, stepping back to a
    character boundary. -/
def shorten (probe key : List Char) : Option (List Char) :=
  Utf8.takeBytes? probe (Utf8.floorBoundary probe (Utf8.size key - 1))

/-- Looks for the longest covering prefix among those that the probe starts with. -/
def resolveFrom (t : PathTable α) (path probe : List Char) : Option (List Char × α) :=
  if probe = [] then none
  else match t.ancestor? probe with
    | none => none
    | some (key, value) =>
      if endsSegment path key then some (key, value)
      else match shorten probe key with
        | some shorter =>
          if Utf8.size shorter < Utf8.size probe then resolveFrom t path shorter else none
        | none => none
termination_by Utf8.size probe

/-- The longest filed prefix that covers the path, with its value. -/
def resolve? (t : PathTable α) (path : String) : Option (List Char × α) :=
  t.resolveFrom path.toList path.toList

end PathTable

/-- What a prefix leaves of a path, with a slash in front. -/
def relativePart (path key : List Char) : List Char :=
  match Utf8.dropBytes? path (Utf8.size key) with
  | some ('/' :: rest) => '/' :: rest
  | some rest => '/' :: rest
  | none => ['/']

end Gatehouse.Routing
