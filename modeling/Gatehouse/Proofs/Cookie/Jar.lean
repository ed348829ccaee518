import Gatehouse.Cookie
import Gatehouse.Proofs.Text.Splitting

namespace Gatehouse.CookieJar

open Http

/-!
# Cookies that are read

A client sends its cookies in one field or spreads them over several. They are read as if all values
that are readable stood in one field, with semicolons between them, and of the pairs with one name
the first one counts.

* `Unquoted`, `IsPair`, `readPair?_eq_some_iff` — the name and the value that a piece of text says;
* `get?_ofPairs`, `nodup_names_ofPairs` — of every name the first value, and no name twice;
* `Collects`, `collects_ofPairs` — the jar of a list of pieces, told piece by piece;
* `cookieText`, `ofHeaders_eq` — the one text that all cookies of a message are read from;
* `ofHeaders_collects` — the cookies of a message are those of this text, however it is spread.
-/

/-! ### Pairs -/

/-- What a value means: what stands between the double quotes that it starts and ends with, or the
    value itself where there is no such pair. -/
inductive Unquoted : List Char → List Char → Prop where
  | quoted (inner : List Char) : Unquoted ('"' :: inner ++ ['"']) inner
  | bare {value : List Char} (unquoted : ∀ inner, value ≠ '"' :: inner ++ ['"']) :
      Unquoted value value

/-- Every value has one meaning. -/
theorem unquote_eq_iff {value meaning : List Char} :
    unquote value = meaning ↔ Unquoted value meaning := by
  constructor
  · intro h
    unfold unquote at h
    split at h
    · next rest =>
      by_cases hlast : rest.getLast? = some '"'
      · rw [if_pos hlast] at h
        obtain ⟨inner, rfl⟩ := List.getLast?_eq_some_iff.1 hlast
        rw [List.dropLast_concat] at h
        subst h
        exact .quoted inner
      · rw [if_neg hlast] at h
        subst h
        refine .bare fun inner hinner => hlast ?_
        rw [List.cons_append, List.cons.injEq] at hinner
        simp [hinner.2]
    · next hopens =>
      subst h
      exact .bare fun inner hinner => hopens (inner ++ ['"']) hinner
  · intro h
    cases h with
    | quoted inner => simp [unquote]
    | bare unquoted =>
      unfold unquote
      split
      · next rest =>
        refine if_neg fun hlast => ?_
        obtain ⟨inner, rfl⟩ := List.getLast?_eq_some_iff.1 hlast
        exact unquoted inner rfl
      · rfl

/-- A value is left as it is unless it stands in quotes. -/
theorem unquote_eq_self_iff {value : List Char} :
    unquote value = value ↔ ∀ inner, value ≠ '"' :: inner ++ ['"'] := by
  rw [unquote_eq_iff]
  constructor
  · rintro hvalue inner rfl
    have hsame : inner = '"' :: inner ++ ['"'] :=
      (unquote_eq_iff.2 (.quoted inner)).symm.trans (unquote_eq_iff.2 hvalue)
    have hlength := congrArg List.length hsame
    simp only [List.length_append, List.length_cons, List.length_nil] at hlength
    omega
  · exact .bare

/-- The piece says that the name has the value: the name stands in front of the first `=`, the value
    behind it, both with blanks around them, and the value possibly in quotes. No name is empty. -/
structure IsPair (piece : List Char) (name value : String) : Prop where
  named : name ≠ ""
  reads : ∃ front back, piece = front ++ '=' :: back ∧ '=' ∉ front ∧
    Text.trim front = name.toList ∧ Unquoted (Text.trim back) value.toList

/-- The pairs that are read are those that the pieces say. -/
theorem readPair?_eq_some_iff {piece : List Char} {name value : String} :
    readPair? piece = some (name, value) ↔ IsPair piece name value := by
  have hread : readPair? piece = some (name, value) ↔ ∃ front back,
      Text.splitOnce '=' piece = some (front, back) ∧ Text.trim front ≠ [] ∧
        String.ofList (Text.trim front) = name ∧
        String.ofList (unquote (Text.trim back)) = value := by
    unfold readPair?
    cases hsplit : Text.splitOnce '=' piece with
    | none => simp
    | some parts =>
      obtain ⟨front, back⟩ := parts
      by_cases hname : Text.trim front = []
      · simp [hname]
      · simp [hname]
  rw [hread]
  constructor
  · rintro ⟨front, back, hsplit, hname, rfl, rfl⟩
    obtain ⟨hpiece, hfirst⟩ := Text.splitOnce_eq_some_iff.1 hsplit
    refine ⟨fun hempty => hname ?_, front, back, hpiece, hfirst, ?_, ?_⟩
    · simpa using congrArg String.toList hempty
    · rw [String.toList_ofList]
    · rw [String.toList_ofList, ← unquote_eq_iff]
  · rintro ⟨hnamed, front, back, hpiece, hfirst, hname, hvalue⟩
    have hsplit := Text.splitOnce_eq_some_iff.2 ⟨hpiece, hfirst⟩
    refine ⟨front, back, hsplit, ?_, ?_, ?_⟩
    · rw [hname]
      simpa using hnamed
    · rw [hname, String.ofList_toList]
    · rw [unquote_eq_iff.2 hvalue, String.ofList_toList]

/-! ### The first value of a name -/

/-- The names that have a value. -/
def names (jar : CookieJar) : List String := jar.entries.map (·.1)

theorem mem_names_iff {jar : CookieJar} {name : String} :
    name ∈ jar.names ↔ ∃ value, jar.get? name = some value := by
  rw [← Option.isSome_iff_exists, get?, Option.isSome_map, List.find?_isSome, names, List.mem_map]
  simp

/-- Where no name is filed twice, the value of a name is the one filed with it. -/
theorem get?_eq_some_iff {jar : CookieJar} (h : jar.names.Nodup) {name value : String} :
    jar.get? name = some value ↔ (name, value) ∈ jar.entries := by
  unfold get?
  constructor
  · intro hget
    obtain ⟨p, hfind, rfl⟩ := Option.map_eq_some_iff.1 hget
    have hname : p.1 = name := by simpa using List.find?_some hfind
    rw [← hname]
    exact List.mem_of_find?_eq_some hfind
  · intro hmem
    obtain ⟨before, after, hentries⟩ := List.append_of_mem hmem
    have hfirst : ∀ p ∈ before, p.1 ≠ name := by
      intro p hp hname
      rw [names, hentries, List.map_append, List.nodup_append] at h
      exact h.2.2 p.1 (List.mem_map_of_mem hp) name (by simp) hname
    have hfind : jar.entries.find? (·.1 = name) = some (name, value) := by
      rw [List.find?_eq_some_iff_append]
      refine ⟨by simp, before, after, hentries, fun p hp => ?_⟩
      simpa using hfirst p hp
    rw [hfind]
    rfl

theorem insertNew_of_mem {jar : CookieJar} {name : String} (h : name ∈ jar.names) (value : String) :
    jar.insertNew name value = jar := by
  have hany : jar.entries.any (·.1 = name) = true := by simpa [names] using h
  rw [insertNew, if_pos hany]

theorem insertNew_of_notMem {jar : CookieJar} {name : String} (h : name ∉ jar.names)
    (value : String) : jar.insertNew name value = ⟨jar.entries ++ [(name, value)]⟩ := by
  have hany : ¬ jar.entries.any (·.1 = name) = true := by simpa [names] using h
  rw [insertNew, if_neg hany]

/-- A value is filed under a name that has none, and every other name keeps what it has. -/
theorem get?_insertNew (jar : CookieJar) (name value other : String) :
    (jar.insertNew name value).get? other
      = (jar.get? other).or (if name = other then some value else none) := by
  by_cases h : name ∈ jar.names
  · obtain ⟨first, hfirst⟩ := mem_names_iff.1 h
    rw [insertNew_of_mem h]
    by_cases hother : name = other
    · subst hother
      simp [hfirst]
    · simp [hother]
  · rw [insertNew_of_notMem h]
    unfold get?
    rw [List.find?_append, Option.map_or]
    by_cases hother : name = other
    · simp [hother]
    · simp [hother]

/-- What is filed already comes first, then the pairs in order. -/
theorem get?_foldl_insertNew (ps : List (String × String)) (jar : CookieJar) (name : String) :
    (ps.foldl (fun jar p => jar.insertNew p.1 p.2) jar).get? name
      = (jar.get? name).or ((ps.find? (·.1 = name)).map (·.2)) := by
  induction ps generalizing jar with
  | nil => simp
  | cons p ps ih =>
    rw [List.foldl_cons, ih, get?_insertNew, Option.or_assoc]
    by_cases h : p.1 = name
    · simp [h]
    · simp [h]

theorem nodup_names_insertNew {jar : CookieJar} (h : jar.names.Nodup) (name value : String) :
    (jar.insertNew name value).names.Nodup := by
  by_cases hmem : name ∈ jar.names
  · rwa [insertNew_of_mem hmem]
  · have hnames : (jar.insertNew name value).names = jar.names ++ [name] := by
      rw [insertNew_of_notMem hmem]
      simp [names]
    rw [hnames, List.nodup_append]
    refine ⟨h, List.pairwise_singleton _ _, fun filed hfiled last hlast => ?_⟩
    rw [List.mem_singleton.1 hlast]
    rintro rfl
    exact hmem hfiled

theorem nodup_names_foldl_insertNew (ps : List (String × String)) {jar : CookieJar}
    (h : jar.names.Nodup) : (ps.foldl (fun jar p => jar.insertNew p.1 p.2) jar).names.Nodup := by
  induction ps generalizing jar with
  | nil => exact h
  | cons p ps ih => exact ih (nodup_names_insertNew h p.1 p.2)

theorem get?_ofPairs (ps : List (String × String)) (name : String) :
    (ofPairs ps).get? name = (ps.find? (·.1 = name)).map (·.2) := by
  rw [ofPairs, get?_foldl_insertNew, get?_empty, Option.none_or]

theorem mem_names_ofPairs_iff {ps : List (String × String)} {name : String} :
    name ∈ (ofPairs ps).names ↔ ∃ value, (name, value) ∈ ps := by
  rw [mem_names_iff, ← Option.isSome_iff_exists, get?_ofPairs, Option.isSome_map, List.find?_isSome]
  simp

theorem nodup_names_ofPairs (ps : List (String × String)) : (ofPairs ps).names.Nodup :=
  nodup_names_foldl_insertNew ps List.nodup_nil

/-- Pairs of different names are all filed, in order. -/
theorem entries_ofPairs {ps : List (String × String)} (h : (ps.map (·.1)).Nodup) :
    (ofPairs ps).entries = ps := by
  have hfold : ∀ (ps : List (String × String)) (jar : CookieJar),
      (jar.names ++ ps.map (·.1)).Nodup →
      (ps.foldl (fun jar p => jar.insertNew p.1 p.2) jar).entries = jar.entries ++ ps := by
    intro ps
    induction ps with
    | nil => simp
    | cons p ps ih =>
      intro jar hnodup
      have hnew : p.1 ∉ jar.names := by
        intro hmem
        exact (List.nodup_append.1 hnodup).2.2 _ hmem p.1 (by simp) rfl
      rw [List.foldl_cons, insertNew_of_notMem hnew, ih]
      · simp
      · simpa [names] using hnodup
  rw [ofPairs, hfold ps empty (by simpa [names, empty] using h)]
  rfl

/-- The jar holds what the pieces say: every name of a pair, once, with the value of its first
    pair. -/
structure Collects (pieces : List (List Char)) (jar : CookieJar) : Prop where
  once : jar.names.Nodup
  named : ∀ name, name ∈ jar.names ↔ ∃ piece ∈ pieces, ∃ value, IsPair piece name value
  first : ∀ name value, jar.get? name = some value ↔ ∃ before piece after,
    pieces = before ++ piece :: after ∧ IsPair piece name value ∧
      ∀ earlier ∈ before, ∀ other, ¬ IsPair earlier name other

/-- A piece that says some value of a name. -/
theorem any_readPair?_iff {piece : List Char} {name : String} :
    (readPair? piece).any (·.1 = name) = true ↔ ∃ value, IsPair piece name value := by
  simp only [← readPair?_eq_some_iff]
  cases hread : readPair? piece with
  | none => simp
  | some p => simp [Prod.ext_iff]

/-- The value of a name is that of the first piece that says any value of it. -/
theorem get?_ofPairs_filterMap (pieces : List (List Char)) (name : String) :
    (ofPairs (pieces.filterMap readPair?)).get? name
      = (pieces.find? fun piece => (readPair? piece).any (·.1 = name)).bind
          fun piece => (readPair? piece).map (·.2) := by
  rw [get?_ofPairs, List.find?_filterMap, Option.map_bind]
  rfl

theorem get?_ofPairs_filterMap_eq_some_iff {pieces : List (List Char)} {name value : String} :
    (ofPairs (pieces.filterMap readPair?)).get? name = some value ↔ ∃ before piece after,
      pieces = before ++ piece :: after ∧ IsPair piece name value ∧
        ∀ earlier ∈ before, ∀ other, ¬ IsPair earlier name other := by
  have hsilent : ∀ piece, (!(readPair? piece).any (·.1 = name)) = true ↔
      ∀ other, ¬ IsPair piece name other := by
    intro piece
    rw [Bool.not_eq_true', ← Bool.not_eq_true, any_readPair?_iff, not_exists]
  rw [get?_ofPairs_filterMap, Option.bind_eq_some_iff]
  constructor
  · rintro ⟨piece, hfind, hvalue⟩
    obtain ⟨hnamed, before, after, hpieces, hbefore⟩ := List.find?_eq_some_iff_append.1 hfind
    obtain ⟨found, hpair⟩ := any_readPair?_iff.1 hnamed
    rw [readPair?_eq_some_iff.2 hpair] at hvalue
    obtain rfl : found = value := Option.some.inj hvalue
    exact ⟨before, piece, after, hpieces, hpair, fun earlier hmem =>
      (hsilent earlier).1 (hbefore earlier hmem)⟩
  · rintro ⟨before, piece, after, hpieces, hpair, hbefore⟩
    have hnamed := any_readPair?_iff.2 ⟨value, hpair⟩
    refine ⟨piece, List.find?_eq_some_iff_append.2 ⟨hnamed, before, after, hpieces, ?_⟩, ?_⟩
    · intro earlier hmem
      exact (hsilent earlier).2 (hbefore earlier hmem)
    · rw [readPair?_eq_some_iff.2 hpair]
      rfl

/-- The pairs that are read from pieces are collected. -/
theorem collects_ofPairs (pieces : List (List Char)) :
    Collects pieces (ofPairs (pieces.filterMap readPair?)) := by
  refine ⟨nodup_names_ofPairs _, fun name => ?_, fun name value => ?_⟩
  · rw [mem_names_ofPairs_iff]
    simp only [List.mem_filterMap, readPair?_eq_some_iff]
    constructor
    · rintro ⟨value, piece, hpiece, hpair⟩
      exact ⟨piece, hpiece, value, hpair⟩
    · rintro ⟨piece, hpiece, value, hpair⟩
      exact ⟨value, piece, hpiece, hpair⟩
  · exact get?_ofPairs_filterMap_eq_some_iff

/-! ### Fields -/

/-- The value is readable as text: visible ASCII, spaces and tabs. -/
def isReadable (value : Bytes) : Bool := value.all isTextByte

theorem isSome_valueText? (value : Bytes) : (valueText? value).isSome = isReadable value := by
  unfold valueText? isReadable
  by_cases h : value.all isTextByte = true
  · simp [h]
  · simp [h]

/-- The byte of a semicolon. -/
def semicolon : UInt8 := 0x3B

/-- The text that the readable ones of some values make up, with semicolons between them. -/
def cookieText (values : List Bytes) : List Char :=
  Text.joinWith [';'] (values.filterMap valueText?)

/-- Texts that are joined by semicolons hold their pairs, one text after the other. -/
theorem pairs_joinWith (texts : List (List Char)) :
    pairs (Text.joinWith [';'] texts) = texts.flatMap pairs := by
  induction texts with
  | nil => rfl
  | cons text texts ih =>
    cases texts with
    | nil => simp [Text.joinWith]
    | cons next rest =>
      have hcut : Text.splitAll ';' (Text.joinWith [';'] (text :: next :: rest))
          = Text.splitAll ';' text ++ Text.splitAll ';' (Text.joinWith [';'] (next :: rest)) := by
        rw [← Text.splitAll_append_cons]
        simp [Text.joinWith]
      rw [pairs, hcut, List.filterMap_append, List.flatMap_cons, ← ih]
      rfl

theorem flatMap_pairsOfValue (values : List Bytes) :
    values.flatMap pairsOfValue = (values.filterMap valueText?).flatMap pairs := by
  induction values with
  | nil => rfl
  | cons value values ih =>
    rw [List.flatMap_cons, ih, List.filterMap_cons, pairsOfValue]
    cases valueText? value with
    | none => simp
    | some text => simp

/-- All cookies of a message are read from one text. -/
theorem ofHeaders_eq (h : Headers) :
    ofHeaders h = ofPairs (pairs (cookieText (h.getAll .cookie))) := by
  rw [ofHeaders, flatMap_pairsOfValue, cookieText, pairs_joinWith]

theorem valueText?_append_cons {a b : Bytes} {front back : List Char}
    (ha : valueText? a = some front) (hb : valueText? b = some back) :
    valueText? (a ++ semicolon :: b) = some (front ++ ';' :: back) := by
  unfold valueText? at ha hb ⊢
  rw [Option.ite_none_right_eq_some, Option.some.injEq] at ha hb
  obtain ⟨hfront, rfl⟩ := ha
  obtain ⟨hback, rfl⟩ := hb
  have hsemicolon : isTextByte semicolon = true := by decide
  have hchar : Char.ofNat semicolon.toNat = ';' := by decide
  simp [hfront, hback, hsemicolon, hchar]

/-- Readable values that are joined by semicolons are read as the text that they make up. -/
theorem valueText?_intercalate {values : List Bytes} (h : ∀ v ∈ values, isReadable v = true) :
    valueText? ([semicolon].intercalate values) = some (cookieText values) := by
  induction values with
  | nil => rfl
  | cons value values ih =>
    have hread : ∀ v ∈ value :: values, ∃ text, valueText? v = some text := by
      intro v hv
      rw [← Option.isSome_iff_exists, isSome_valueText?]
      exact h v hv
    obtain ⟨text, htext⟩ := hread value List.mem_cons_self
    cases values with
    | nil => simp [cookieText, htext, Text.joinWith]
    | cons next rest =>
      obtain ⟨nextText, hnext⟩ := hread next (by simp)
      have hrest := ih fun v hv => h v (List.mem_cons_of_mem _ hv)
      rw [List.intercalate_cons_cons, List.append_assoc, List.singleton_append,
        valueText?_append_cons htext hrest]
      simp [cookieText, htext, hnext, Text.joinWith]

/-- Values that cannot be read add nothing to the text. -/
theorem cookieText_filter (values : List Bytes) :
    cookieText (values.filter isReadable) = cookieText values := by
  unfold cookieText
  rw [List.filterMap_filter]
  refine congrArg _ (List.filterMap_congr fun value _ => ?_)
  rw [← isSome_valueText?]
  cases valueText? value with
  | none => rfl
  | some text => rfl

/-- How the cookies of a message are spread over its fields does not matter. Its jar is that of its
    readable values alone, be they in fields of their own or in one field with semicolons between
    them, and it collects the pieces that the semicolons cut the text of this one field into. -/
theorem ofHeaders_collects (h : Headers) :
    (∀ readable : Headers, readable.getAll .cookie = (h.getAll .cookie).filter isReadable →
      ofHeaders readable = ofHeaders h) ∧
    (∀ joined : Headers,
      joined.getAll .cookie = [[semicolon].intercalate ((h.getAll .cookie).filter isReadable)] →
      ofHeaders joined = ofHeaders h) ∧
    ∃ pieces, Text.IsCut ';' (cookieText (h.getAll .cookie)) pieces ∧
      Collects pieces (ofHeaders h) := by
  refine ⟨fun readable hreadable => ?_, fun joined hjoined => ?_, ?_⟩
  · rw [ofHeaders_eq, hreadable, cookieText_filter, ← ofHeaders_eq]
  · have htext : valueText? ([semicolon].intercalate ((h.getAll .cookie).filter isReadable))
        = some (cookieText (h.getAll .cookie)) := by
      rw [valueText?_intercalate fun v hv => (List.mem_filter.1 hv).2, cookieText_filter]
    have hone : cookieText (joined.getAll .cookie) = cookieText (h.getAll .cookie) := by
      rw [hjoined]
      simp [cookieText, htext, Text.joinWith]
    rw [ofHeaders_eq, hone, ← ofHeaders_eq]
  · refine ⟨_, Text.isCut_iff.2 rfl, ?_⟩
    rw [ofHeaders_eq]
    exact collects_ofPairs _

/-- Three fields with cookies, of which the second has a byte that is not text. -/
def spread : Headers :=
  [Utf8.bytes "a=1; b=\"2\"", [0x61, 0x3D, 0xFF], Utf8.bytes "b=3; =4;c"].foldl
    (fun h value => h.append .cookie value) .empty

/-- What can be read of them, in one field. -/
def gathered : Headers := Headers.empty.append .cookie (Utf8.bytes "a=1; b=\"2\";b=3; =4;c")

/-- One field has the same cookies as the two that can be read. The value of `b` is the one in
    quotes. -/
theorem ofHeaders_collects_spread :
    ofHeaders gathered = ofHeaders spread ∧
      (ofHeaders spread).names.Nodup ∧ (ofHeaders spread).get? "b" = some "2" := by
  obtain ⟨-, hjoined, pieces, hcut, hcollects⟩ := ofHeaders_collects spread
  refine ⟨hjoined _ (by decide +kernel), hcollects.once, ?_⟩
  have hpieces : pieces
      = ["a=1".toList] ++ " b=\"2\"".toList :: ["b=3".toList, " =4".toList, "c".toList] := by
    rw [← Text.isCut_iff.1 hcut]
    decide +kernel
  have hpair : IsPair " b=\"2\"".toList "b" "2" := readPair?_eq_some_iff.1 (by decide +kernel)
  have hearlier : ∀ other, ¬ IsPair "a=1".toList "b" other := by
    intro other hother
    have hread : readPair? "a=1".toList = some ("a", "1") := by decide +kernel
    rw [readPair?_eq_some_iff.2 hother] at hread
    simp at hread
  refine (hcollects.first "b" "2").2 ⟨_, _, _, hpieces, hpair, fun earlier hmem => ?_⟩
  rw [List.mem_singleton.1 hmem]
  exact hearlier

end Gatehouse.CookieJar
