import Gatehouse.Proofs.Cookie.Jar
import Gatehouse.Proofs.Cookie.Writing
import Gatehouse.Proofs.Http.HostName

namespace Gatehouse.Cookie

open Http

/-!
# Cookies that come back

A client sends back what the text of a cookie says in front of its first semicolon, the pairs of all
its cookies in one field. What is read of this field are the cookies that were set, if reading
leaves their names and values as they are.

* `IsReturnable`, `isReturnable_iff` — the names and values that come back as they were set;
* `returned`, `pairs_returned` — the field that a client sends, and the pairs that are read of it;
* `ofHeaders_returned` — of cookies with different names, the jar holds the names with their values.
-/

/-- Printable ASCII: the visible characters and the space. -/
def isPrintable (c : Char) : Bool := 0x20 ≤ c.toNat && c.toNat < 0x7F

/-- The name and the value are printable and have no blank at their ends. There is no semicolon in
    them and no `=` in the name, which is not empty, and the value does not stand in quotes. -/
structure IsReturnable (c : Cookie) : Prop where
  named : c.name ≠ ""
  name : ∀ ch ∈ c.name.toList, isPrintable ch = true ∧ ch ≠ '=' ∧ ch ≠ ';'
  nameTrimmed : Text.IsTrimmed c.name.toList
  value : ∀ ch ∈ c.value.toList, isPrintable ch = true ∧ ch ≠ ';'
  valueTrimmed : Text.IsTrimmed c.value.toList
  unquoted : ∀ inner, c.value.toList ≠ '"' :: inner ++ ['"']

theorem isReturnable_iff (c : Cookie) : c.IsReturnable ↔
    c.name ≠ "" ∧
    (c.name.toList.all fun ch => isPrintable ch && ch != '=' && ch != ';') = true ∧
    Text.trim c.name.toList = c.name.toList ∧
    (c.value.toList.all fun ch => isPrintable ch && ch != ';') = true ∧
    Text.trim c.value.toList = c.value.toList ∧
    CookieJar.unquote c.value.toList = c.value.toList := by
  simp only [List.all_eq_true, Bool.and_eq_true, bne_iff_ne, and_assoc, Text.trim_eq_self_iff,
    CookieJar.unquote_eq_self_iff]
  constructor
  · intro h
    exact ⟨h.named, h.name, h.nameTrimmed, h.value, h.valueTrimmed, h.unquoted⟩
  · rintro ⟨hnamed, hname, hnameTrimmed, hvalue, hvalueTrimmed, hunquoted⟩
    exact ⟨hnamed, hname, hnameTrimmed, hvalue, hvalueTrimmed, hunquoted⟩

instance (c : Cookie) : Decidable c.IsReturnable := decidable_of_iff' _ (isReturnable_iff c)

/-- What a client sends back of a cookie: its text in front of the first semicolon. -/
def returnedPart (c : Cookie) : List Char := c.text.toList.takeWhile (· != ';')

/-- The field in which a client sends back its cookies. -/
def returned (cs : List Cookie) : List Char := Text.joinWith "; ".toList (cs.map returnedPart)

variable {c : Cookie}

theorem IsReturnable.semicolon_notMem (hc : c.IsReturnable) : ';' ∉ c.pairText := by
  have hname : ';' ∉ c.name.toList := fun h => (hc.name _ h).2.2 rfl
  have hvalue : ';' ∉ c.value.toList := fun h => (hc.value _ h).2 rfl
  simp [pairText, hname, hvalue]

/-- The pair comes back, and no attribute. -/
theorem IsReturnable.returnedPart_eq (hc : c.IsReturnable) : c.returnedPart = c.pairText := by
  rw [returnedPart, toList_text, segments]
  exact Text.takeWhile_joinWith hc.semicolon_notMem _

/-- The pair is read as it was set, whether or not there is a space in front of it. -/
theorem IsReturnable.pairs_append (hc : c.IsReturnable) (lead : List Char)
    (hlead : ∀ ch ∈ lead, ch = ' ') :
    CookieJar.pairs (lead ++ c.pairText) = [(c.name, c.value)] := by
  have hblank : ∀ ch ∈ lead, Text.isBlank ch = true := by
    intro ch hch
    rw [hlead ch hch]
    rfl
  have hpair : CookieJar.IsPair (lead ++ c.pairText) c.name c.value := by
    refine ⟨hc.named, lead ++ c.name.toList, c.value.toList, by simp [pairText], ?_, ?_, ?_⟩
    · intro hmem
      rcases List.mem_append.1 hmem with h | h
      · exact absurd (hlead _ h) (by decide)
      · exact (hc.name _ h).2.1 rfl
    · have hne : c.name.toList ≠ [] := mt String.toList_eq_nil_iff.1 hc.named
      have htrim : Text.trim (lead ++ c.name.toList ++ []) = c.name.toList :=
        Text.trim_append_append (Text.trim_eq_self_iff.2 hc.nameTrimmed) hne hblank
          (List.forall_mem_nil _)
      rwa [List.append_nil] at htrim
    · rw [Text.trim_eq_self_iff.2 hc.valueTrimmed]
      exact .bare hc.unquoted
  have hfree : ∀ piece ∈ [lead ++ c.pairText], ';' ∉ piece := by
    intro piece hpiece
    rw [List.mem_singleton.1 hpiece, List.mem_append, not_or]
    exact ⟨fun h => absurd (hlead _ h) (by decide), hc.semicolon_notMem⟩
  have hcut : Text.IsCut ';' (lead ++ c.pairText) [lead ++ c.pairText] :=
    ⟨List.cons_ne_nil _ _, hfree, rfl⟩
  rw [CookieJar.pairs, Text.isCut_iff.1 hcut]
  simp [CookieJar.readPair?_eq_some_iff.2 hpair]

/-- What is read of the field are the names and values that were set. -/
theorem pairs_returned {cs : List Cookie} (hcs : ∀ c ∈ cs, c.IsReturnable) :
    CookieJar.pairs (returned cs) = cs.map fun c => (c.name, c.value) := by
  cases cs with
  | nil => rfl
  | cons c cs =>
    -- The space behind a semicolon goes to the pair that follows.
    have hjoin : returned (c :: cs)
        = Text.joinWith [';'] (([] ++ c.pairText) :: cs.map fun c => [' '] ++ c.pairText) := by
      have hparts : (c :: cs).map returnedPart = (c :: cs).map pairText :=
        List.map_congr_left fun c hc => (hcs c hc).returnedPart_eq
      rw [returned, hparts, List.map_cons, Text.joinWith_cons, Text.joinWith_cons,
        List.flatMap_map, List.flatMap_map]
      rfl
    have hfirst := (hcs c List.mem_cons_self).pairs_append [] (List.forall_mem_nil _)
    have hrest : (cs.map fun c => [' '] ++ c.pairText).flatMap CookieJar.pairs
        = cs.map fun c => (c.name, c.value) := by
      have hone : ∀ c ∈ cs, CookieJar.pairs ([' '] ++ c.pairText) = [(c.name, c.value)] := by
        intro c hc
        have hreturnable := hcs c (List.mem_cons_of_mem _ hc)
        exact hreturnable.pairs_append [' '] fun ch hch => List.mem_singleton.1 hch
      rw [List.flatMap_map, List.flatMap_congr hone, List.map_eq_flatMap]
    rw [hjoin, CookieJar.pairs_joinWith, List.flatMap_cons, hfirst, hrest]
    rfl

/-- The field is readable. -/
theorem valueText?_returned {cs : List Cookie} (hcs : ∀ c ∈ cs, c.IsReturnable) :
    valueText? (Utf8.encode (returned cs)) = some (returned cs) := by
  have hprintable : ∀ ch, isPrintable ch = true → isTextChar ch = true := by
    intro ch h
    simp only [isPrintable] at h
    simp [isTextChar, h]
  have hsepText : ∀ ch ∈ "; ".toList, isTextChar ch = true := by simp [isTextChar]
  have htext : (returned cs).all isTextChar = true := by
    rw [List.all_eq_true]
    intro ch hch
    rcases Text.mem_joinWith hch with hsep | ⟨part, hpart, hmem⟩
    · exact hsepText ch hsep
    · obtain ⟨c, hc, rfl⟩ := List.mem_map.1 hpart
      rw [(hcs c hc).returnedPart_eq, pairText, List.mem_append, List.mem_cons] at hmem
      rcases hmem with h | rfl | h
      · exact hprintable ch ((hcs c hc).name ch h).1
      · rfl
      · exact hprintable ch ((hcs c hc).value ch h).1
  rw [valueText?_encode, if_pos htext]

/-- A client that sends back cookies of different names is known by exactly these: the jar of its
    request holds their names with their values. -/
theorem ofHeaders_returned {cs : List Cookie} (hcs : ∀ c ∈ cs, c.IsReturnable)
    (hnames : (cs.map (·.name)).Nodup) {h : Headers}
    (hfield : h.getAll .cookie = [Utf8.encode (returned cs)]) :
    (CookieJar.ofHeaders h).entries = cs.map (fun c => (c.name, c.value)) ∧
      ∀ name value, (CookieJar.ofHeaders h).get? name = some value ↔
        ∃ c ∈ cs, c.name = name ∧ c.value = value := by
  have hjar : CookieJar.ofHeaders h = .ofPairs (cs.map fun c => (c.name, c.value)) := by
    rw [CookieJar.ofHeaders, hfield, List.flatMap_singleton, CookieJar.pairsOfValue,
      valueText?_returned hcs]
    exact congrArg _ (pairs_returned hcs)
  have hentries : (CookieJar.ofHeaders h).entries = cs.map fun c => (c.name, c.value) := by
    rw [hjar]
    apply CookieJar.entries_ofPairs
    simpa [Function.comp_def] using hnames
  refine ⟨hentries, fun name value => ?_⟩
  have honce : (CookieJar.ofHeaders h).names.Nodup := hjar ▸ CookieJar.nodup_names_ofPairs _
  rw [CookieJar.get?_eq_some_iff honce, hentries]
  simp

/-- Three cookies: one with attributes, of which the path has a semicolon and the value an `=` and a
    double quote, one whose value is a lone double quote, and one without a value. -/
def remembered : List Cookie :=
  [⟨"id", "a=b \"c", some "/;x", none, some (-1), true, false⟩, plain "mark" "\"", plain "empty" ""]

theorem ofHeaders_returned_remembered :
    (CookieJar.ofHeaders (Headers.empty.append .cookie (Utf8.encode (returned remembered)))).entries
      = [("id", "a=b \"c"), ("mark", "\""), ("empty", "")] := by
  have hreturnable : ∀ c ∈ remembered, c.IsReturnable := by decide +kernel
  exact (ofHeaders_returned hreturnable (by decide) rfl).1

end Gatehouse.Cookie
