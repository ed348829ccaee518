import Gatehouse.Proofs.Routing.Filing
import Gatehouse.Routing.Dispatch
import Mathlib.Data.List.Nodup

namespace Gatehouse.Routing

open Http

/-!
# Lookup by the longest covering prefix

A table looks up the longest filed prefix of a probe and, where that prefix ends inside a segment,
cuts the probe below it. The probe never loses a covering prefix on the way:

* `PathTable.IsBest`, `PathTable.isBest_ancestor?` — the longest filed prefix, which is all that the
  search relies on, and `PathTable.IsBest.unique`;
* `PathTable.Probes` — the probe is a prefix of the path that still holds every covering prefix;
* `PathTable.shorten_of_prefix`, `PathTable.Probes.exists_shorten` — a cut keeps this and makes the
  probe shorter;
* `PathTable.resolveFrom_spec` — so the search ends with the longest covering prefix;
* `PathTable.resolve?_ofRoutes_eq_some_iff`, `PathTable.resolve?_ofRoutes_eq_none_iff` — lookups in
  a table by its registrations;
* `resolve?_longest_cover` — the same with the handler that is called in the end.
-/

namespace PathTable

variable {α : Type}

/-! ### The longest filed prefix -/

/-- The better of a candidate and an entry, for a text. -/
def better (text : List Char) (best : Option (List Char × α)) (e : List Char × α) :
    Option (List Char × α) :=
  if e.1.isPrefixOf text then
    match best with
    | some b => if b.1.length < e.1.length then some e else best
    | none => some e
  else best

/-- A candidate is the longest prefix of a text among some entries. -/
def IsBest (es : List (List Char × α)) (text : List Char) : Option (List Char × α) → Prop
  | none => ∀ e ∈ es, ¬ e.1 <+: text
  | some b => b ∈ es ∧ b.1 <+: text ∧ ∀ e ∈ es, e.1 <+: text → e.1.length ≤ b.1.length

theorem isBest_better {es : List (List Char × α)} {text : List Char}
    {best : Option (List Char × α)} (h : IsBest es text best) (e : List Char × α) :
    IsBest (es ++ [e]) text (better text best e) := by
  have hsplit : ∀ {p : List Char × α → Prop}, (∀ x ∈ es, p x) → p e → ∀ x ∈ es ++ [e], p x := by
    intro p hes he x hx
    rcases List.mem_append.1 hx with hx | hx
    · exact hes x hx
    · rw [List.mem_singleton.1 hx]; exact he
  -- An entry that is no prefix changes nothing; one that is replaces a shorter candidate.
  by_cases hpre : e.1 <+: text
  · have hp : e.1.isPrefixOf text = true := List.isPrefixOf_iff_prefix.2 hpre
    cases best with
    | none =>
      simp only [better, hp, if_true]
      refine ⟨by simp, hpre, hsplit ?_ (fun _ => Nat.le_refl _)⟩
      exact fun x hx hxt => absurd hxt (h x hx)
    | some b =>
      obtain ⟨hmem, hbt, hmax⟩ := h
      simp only [better, hp, if_true]
      by_cases hlt : b.1.length < e.1.length
      · rw [if_pos hlt]
        refine ⟨by simp, hpre, hsplit ?_ (fun _ => Nat.le_refl _)⟩
        exact fun x hx hxt => Nat.le_trans (hmax x hx hxt) (Nat.le_of_lt hlt)
      · rw [if_neg hlt]
        exact ⟨by simp [hmem], hbt, hsplit hmax (fun _ => Nat.le_of_not_lt hlt)⟩
  · have hp : ¬ e.1.isPrefixOf text = true := fun hp => hpre (List.isPrefixOf_iff_prefix.1 hp)
    cases best with
    | none =>
      simp only [better, hp]
      exact hsplit h hpre
    | some b =>
      obtain ⟨hmem, hbt, hmax⟩ := h
      simp only [better, hp]
      exact ⟨by simp [hmem], hbt, hsplit hmax (fun he => absurd he hpre)⟩

/-- The longest filed prefix of a text is found by going through the entries once. -/
theorem isBest_ancestor? (t : PathTable α) (text : List Char) :
    IsBest t.entries text (t.ancestor? text) := by
  -- After each entry the candidate is the longest among the entries seen so far.
  have hfold : ∀ (todo seen : List (List Char × α)) (best : Option (List Char × α)),
      IsBest seen text best → IsBest (seen ++ todo) text (todo.foldl (better text) best) := by
    intro todo
    induction todo with
    | nil => intro seen best h; rwa [List.append_nil]
    | cons e todo ih =>
      intro seen best h
      have hnext := ih (seen ++ [e]) (better text best e) (isBest_better h e)
      rwa [List.append_assoc] at hnext
  exact hfold t.entries [] none (fun e he => absurd he List.not_mem_nil)

/-- Where no key is filed twice, there is one longest prefix at most, so that every search for it
    finds the same. -/
theorem IsBest.unique {es : List (List Char × α)} {text : List Char}
    {best best' : Option (List Char × α)} (hes : (es.map (·.1)).Nodup) (h : IsBest es text best)
    (h' : IsBest es text best') : best = best' := by
  cases best with
  | none =>
    cases best' with
    | none => rfl
    | some b' => exact absurd h'.2.1 (h b' h'.1)
  | some b =>
    cases best' with
    | none => exact absurd h.2.1 (h' b h.1)
    | some b' =>
      obtain ⟨hmem, hpre, hmax⟩ := h
      obtain ⟨hmem', hpre', hmax'⟩ := h'
      have hkey : b.1 = b'.1 :=
        (List.prefix_of_prefix_length_le hpre hpre' (hmax' b hmem hpre)).eq_of_length_le
          (hmax b' hmem' hpre')
      exact congrArg some (List.inj_on_of_nodup_map hes hmem hmem' hkey)

/-- What is found is filed, is a prefix of the text, and no other filed prefix is longer. -/
theorem ancestor?_eq_some {t : PathTable α} {text key : List Char} {value : α}
    (h : t.ancestor? text = some (key, value)) :
    (key, value) ∈ t.entries ∧ key <+: text ∧
      ∀ e ∈ t.entries, e.1 <+: text → e.1.length ≤ key.length := by
  have hbest := isBest_ancestor? t text
  rwa [h] at hbest

/-- Where nothing is found, no filed prefix is a prefix of the text. -/
theorem ancestor?_eq_none {t : PathTable α} {text : List Char} (h : t.ancestor? text = none) :
    ∀ e ∈ t.entries, ¬ e.1 <+: text := by
  have hbest := isBest_ancestor? t text
  rwa [h] at hbest

/-! ### The search -/

/-- A probe is a prefix of the path, and every filed prefix that covers the path is a prefix of
    the probe. -/
structure Probes (t : PathTable α) (path probe : List Char) : Prop where
  isPrefix : probe <+: path
  holds : ∀ e ∈ t.entries, Covers e.1 path → e.1 <+: probe

/-- The whole path is a probe. -/
theorem Probes.whole (t : PathTable α) (path : List Char) : t.Probes path path :=
  ⟨List.prefix_refl path, fun _ _ h => h.isPrefix⟩

/-- Below a hit the probe can be cut, at the last character boundary before the end of the hit. -/
theorem shorten_of_prefix {probe key : List Char} (hkey : key <+: probe) (hne : key ≠ []) :
    ∃ shorter, shorten probe key = some shorter ∧ shorter <+: probe ∧
      Utf8.size shorter = Utf8.floorBoundary probe (Utf8.size key - 1) ∧
      Utf8.size shorter < Utf8.size probe := by
  obtain ⟨shorter, hpre, hsize⟩ :=
    Utf8.isBoundary_iff.1 (Utf8.isBoundary_floorBoundary probe (Utf8.size key - 1))
  refine ⟨shorter, Utf8.takeBytes?_eq_some_iff.2 ⟨hpre, hsize⟩, hpre, hsize, ?_⟩
  have hfloor := Utf8.floorBoundary_le probe (Utf8.size key - 1)
  have hpos := Utf8.size_pos_of_ne_nil hne
  have hle := Utf8.size_le_of_prefix hkey
  omega

/-- A hit that ends inside a segment leaves a shorter probe. -/
theorem Probes.exists_shorten {t : PathTable α} {path probe key : List Char} {value : α}
    (hp : t.Probes path probe) (hhit : t.ancestor? probe = some (key, value)) (hne : key ≠ [])
    (hinside : ¬ Covers key path) :
    ∃ shorter, shorten probe key = some shorter ∧ Utf8.size shorter < Utf8.size probe ∧
      t.Probes path shorter := by
  obtain ⟨_, hkey, hmax⟩ := ancestor?_eq_some hhit
  obtain ⟨shorter, hcut, hpre, hsize, hshort⟩ := shorten_of_prefix hkey hne
  refine ⟨shorter, hcut, hshort, hpre.trans hp.isPrefix, ?_⟩
  -- A covering prefix is shorter than the hit, so the cut falls behind it.
  intro e he hcov
  have hep : e.1 <+: probe := hp.holds e he hcov
  have hek : e.1 <+: key := List.prefix_of_prefix_length_le hep hkey (hmax e he hep)
  have hlt : Utf8.size e.1 < Utf8.size key := by
    refine Nat.lt_of_le_of_ne (Utf8.size_le_of_prefix hek) ?_
    intro heq
    exact hinside (Utf8.eq_of_size_eq hep hkey heq ▸ hcov)
  have hes : Utf8.size e.1 ≤ Utf8.size shorter := by
    rw [hsize]; exact Utf8.size_le_floorBoundary hep (by omega)
  exact Utf8.prefix_of_size_le hep hpre hes

/-- What a search for a path may end with. -/
def Answers (t : PathTable α) (path : List Char) : Option (List Char × α) → Prop
  | none => ∀ e ∈ t.entries, ¬ Covers e.1 path
  | some (key, value) => (key, value) ∈ t.entries ∧ Covers key path ∧
      ∀ e ∈ t.entries, Covers e.1 path → e.1.length ≤ key.length

/-- From any probe the search ends with the longest covering prefix. -/
theorem resolveFrom_spec {t : PathTable α} (hne : ∀ e ∈ t.entries, e.1 ≠ []) (path : List Char) :
    ∀ probe, t.Probes path probe → t.Answers path (t.resolveFrom path probe) := by
  intro probe
  -- By the size of the probe: every cut keeps the invariant and makes the probe smaller.
  induction hn : Utf8.size probe using Nat.strongRecOn generalizing probe with
  | ind n ih =>
    intro hp
    rw [resolveFrom]
    by_cases hnil : probe = []
    · rw [if_pos hnil]
      intro e he hcov
      exact hne e he (List.prefix_nil.1 (hnil ▸ hp.holds e he hcov))
    · rw [if_neg hnil]
      cases hhit : t.ancestor? probe with
      | none => exact fun e he hcov => ancestor?_eq_none hhit e he (hp.holds e he hcov)
      | some hit =>
        obtain ⟨key, value⟩ := hit
        obtain ⟨hmem, hkey, hmax⟩ := ancestor?_eq_some hhit
        by_cases hcov : Covers key path
        · have hends := (endsSegment_iff (hkey.trans hp.isPrefix)).2 hcov
          simp only [hends, if_true]
          exact ⟨hmem, hcov, fun e he hec => hmax e he (hp.holds e he hec)⟩
        · have hends : ¬ endsSegment path key = true :=
            fun hh => hcov ((endsSegment_iff (hkey.trans hp.isPrefix)).1 hh)
          obtain ⟨shorter, hcut, hlt, hnext⟩ := hp.exists_shorten hhit (hne _ hmem) hcov
          simp only [hends, hcut, hlt, if_true]
          exact ih (Utf8.size shorter) (hn ▸ hlt) shorter rfl hnext

/-! ### Tables by their registrations -/

/-- The search of a table starts with the whole path. -/
theorem answers_ofRoutes (routes : List (String × α)) (path : String) :
    (ofRoutes routes).Answers path.toList ((ofRoutes routes).resolve? path) :=
  resolveFrom_spec (ne_nil_of_mem_ofRoutes routes) path.toList path.toList (.whole _ _)

/-- A found prefix is the longest that covers the path, with the value registered for it last. -/
theorem isLongestCover_of_resolve? {routes : List (String × α)} {path : String} {key : List Char}
    {value : α} (h : (ofRoutes routes).resolve? path = some (key, value)) :
    IsLongestCover (filedKeys routes) path.toList key
      ∧ lastUnder? (filings routes) key = some value := by
  have hans := answers_ofRoutes routes path
  rw [h] at hans
  obtain ⟨hmem, hcov, hmax⟩ := hans
  refine ⟨⟨(exists_mem_ofRoutes_iff routes key).1 ⟨value, hmem⟩, hcov, ?_⟩,
    (mem_ofRoutes_iff routes key value).1 hmem⟩
  intro other hother hoc
  obtain ⟨v, hv⟩ := (exists_mem_ofRoutes_iff routes other).2 hother
  exact hmax (other, v) hv hoc

/-- Nothing is found exactly where no registered prefix covers the path. -/
theorem resolve?_ofRoutes_eq_none_iff (routes : List (String × α)) (path : String) :
    (ofRoutes routes).resolve? path = none
      ↔ ∀ key ∈ filedKeys routes, ¬ Covers key path.toList := by
  constructor
  · intro h key hkey
    have hans := answers_ofRoutes routes path
    rw [h] at hans
    obtain ⟨value, hmem⟩ := (exists_mem_ofRoutes_iff routes key).2 hkey
    exact hans (key, value) hmem
  · intro h
    cases hr : (ofRoutes routes).resolve? path with
    | none => rfl
    | some hit =>
      have hlong := (isLongestCover_of_resolve? hr).1
      exact absurd hlong.covers (h hit.1 hlong.mem)

/-- The longest covering prefix is found, with the value registered for it last. -/
theorem resolve?_ofRoutes_eq_some_iff (routes : List (String × α)) (path : String)
    (key : List Char) (value : α) :
    (ofRoutes routes).resolve? path = some (key, value) ↔
      IsLongestCover (filedKeys routes) path.toList key
        ∧ lastUnder? (filings routes) key = some value := by
  refine ⟨isLongestCover_of_resolve?, ?_⟩
  rintro ⟨hlong, hlast⟩
  cases hr : (ofRoutes routes).resolve? path with
  | none =>
    exact absurd hlong.covers ((resolve?_ofRoutes_eq_none_iff routes path).1 hr key hlong.mem)
  | some hit =>
    obtain ⟨hlong', hlast'⟩ := isLongestCover_of_resolve? hr
    have hkey : hit.1 = key := hlong'.unique hlong
    rw [hkey, hlast] at hlast'
    rw [← hkey, Option.some.inj hlast']

/-- The lookup only depends on what is registered last under each prefix. -/
theorem resolve?_ofRoutes_congr {routes routes' : List (String × α)}
    (h : ∀ key, lastUnder? (filings routes') key = lastUnder? (filings routes) key)
    (path : String) : (ofRoutes routes').resolve? path = (ofRoutes routes).resolve? path := by
  have hkeys : ∀ key, key ∈ filedKeys routes' ↔ key ∈ filedKeys routes := by
    intro key
    rw [← exists_mem_ofRoutes_iff, ← exists_mem_ofRoutes_iff]
    simp only [mem_ofRoutes_iff, h]
  apply Option.ext
  rintro ⟨key, value⟩
  rw [resolve?_ofRoutes_eq_some_iff, resolve?_ofRoutes_eq_some_iff, h]
  refine and_congr_left fun _ => ⟨fun hl => ?_, fun hl => ?_⟩
  · exact ⟨(hkeys key).1 hl.mem, hl.covers, fun o ho => hl.longest o ((hkeys o).2 ho)⟩
  · exact ⟨(hkeys key).2 hl.mem, hl.covers, fun o ho => hl.longest o ((hkeys o).1 ho)⟩

end PathTable

/-! ### The handler of a table -/

/-- What a prefix leaves of a path gets a slash in front where it has none. -/
theorem relativePart_append (key rest : List Char) :
    relativePart (key ++ rest) key = if rest.head? = some '/' then rest else '/' :: rest := by
  simp only [relativePart, Utf8.dropBytes?_append]
  cases rest with
  | nil => rfl
  | cons c rest =>
    by_cases hc : c = '/'
    · simp [hc]
    · simp [hc]

/-- A request is handed to the handler of the prefix found for its path, which it carries along with
    what the prefix leaves of the path. -/
theorem pathHandler_of_some {routes : List (String × Handler)} {request : Request}
    {key : List Char} {handler : Handler} (fallback : Handler)
    (h : (PathTable.ofRoutes routes).resolve? request.target.path = some (key, handler)) :
    ∃ rest, request.target.path.toList = key ++ rest ∧
      pathHandler (.ofRoutes routes) fallback request =
        handler { request with
          resolved := some ⟨String.ofList key,
            String.ofList (if rest.head? = some '/' then rest else '/' :: rest)⟩ } := by
  obtain ⟨rest, hrest⟩ := (PathTable.isLongestCover_of_resolve? h).1.covers.isPrefix
  refine ⟨rest, hrest.symm, ?_⟩
  simp only [pathHandler, h, withResolved]
  rw [← hrest, relativePart_append]

/-- A path is resolved to the longest registered prefix that covers it, with the handler
    registered for it last, and to nothing exactly where no prefix covers it. The order in which
    different prefixes are registered does not matter. The handler that is found gets the request
    with the prefix and the rest of the path, which starts with a slash. -/
theorem resolve?_longest_cover (routes : List (String × Handler)) (path : String) :
    (∀ key handler, (PathTable.ofRoutes routes).resolve? path = some (key, handler) ↔
      IsLongestCover (filedKeys routes) path.toList key
        ∧ lastUnder? (filings routes) key = some handler) ∧
    ((PathTable.ofRoutes routes).resolve? path = none ↔
      ∀ key ∈ filedKeys routes, ¬ Covers key path.toList) ∧
    (∀ routes' : List (String × Handler),
      (∀ key, (filings routes').filter (·.1 = key) = (filings routes).filter (·.1 = key)) →
      (PathTable.ofRoutes routes').resolve? path = (PathTable.ofRoutes routes).resolve? path) ∧
    (∀ (fallback : Handler) (request : Request), request.target.path = path →
      (∀ key handler, (PathTable.ofRoutes routes).resolve? path = some (key, handler) →
        ∃ rest, path.toList = key ++ rest ∧
          pathHandler (.ofRoutes routes) fallback request =
            handler { request with
              resolved := some ⟨String.ofList key,
                String.ofList (if rest.head? = some '/' then rest else '/' :: rest)⟩ }) ∧
      ((PathTable.ofRoutes routes).resolve? path = none →
        pathHandler (.ofRoutes routes) fallback request = fallback request)) := by
  refine ⟨PathTable.resolve?_ofRoutes_eq_some_iff routes path,
    PathTable.resolve?_ofRoutes_eq_none_iff routes path, ?_, ?_⟩
  · intro routes' h
    refine PathTable.resolve?_ofRoutes_congr (fun key => ?_) path
    rw [lastUnder?, lastUnder?, h key]
  · rintro fallback request rfl
    refine ⟨fun key handler h => pathHandler_of_some fallback h, fun h => ?_⟩
    simp only [pathHandler, h]

/-- A handler that answers with nothing but its label among the visits. -/
def labelled (label : String) : Handler := Script.handler ⟨label, .answered (.ofStatus .ok)⟩

/-- Five registrations: siblings that share their beginnings, two spellings of one prefix, and the
    root. -/
def siblings : List (String × Handler) :=
  [("/a", labelled "a"), ("/ab/", labelled "first"), ("/abc", labelled "abc"),
    ("ab", labelled "last"), ("/", labelled "root")]

/-- A path below the prefix with two spellings goes to the later one, a path that only starts like
    the siblings goes past all of them to the root. -/
theorem resolve?_longest_cover_siblings :
    (PathTable.ofRoutes siblings).resolve? "/ab/x" = some ("/ab".toList, labelled "last") ∧
    (PathTable.ofRoutes siblings).resolve? "/abx" = some ("/".toList, labelled "root") :=
  ⟨((resolve?_longest_cover siblings "/ab/x").1 _ _).2
      ⟨⟨by decide, by decide, by decide⟩, by rfl⟩,
    ((resolve?_longest_cover siblings "/abx").1 _ _).2
      ⟨⟨by decide, by decide, by decide⟩, by rfl⟩⟩

end Gatehouse.Routing
