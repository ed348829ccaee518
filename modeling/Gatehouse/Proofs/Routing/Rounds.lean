import Gatehouse.Proofs.Routing.Lookup

namespace Gatehouse.Routing

/-!
# Rounds of a search

A search goes in rounds. A round looks up the longest filed prefix of the probe and then works with
byte offsets: it reads the byte of the path behind the hit, takes one off the size of the hit,
counts down from there to a character boundary and cuts the probe. `PathTable.resolveFrom` does so
with operations that have some value at every offset. Here a round makes a misstep where an offset
is out of place, and it turns out that no search makes one and that the answers are the same.

* `Misstep` — what comes of an offset that is out of place;
* `byteOf`, `oneLess`, `countDown`, `cutAt`, `restFrom` — the operations, with their missteps;
* `endsSegmentAt_eq`, `countDown_eq`, `cutAt_eq_ok_of_takeBytes?`, `restFrom_append` — where they
  make none;
* `PathTable.round`, `PathTable.Search` — one round, and a search by the probes of its rounds;
* `InPlace`, `PathTable.Probes.inPlace` — the offsets of a round with a hit are in place;
* `PathTable.round_hit`, `PathTable.Probes.round_outcome` — what one round does;
* `PathTable.Search.unique`, `PathTable.exists_search` — every search has one course, which ends;
* `PathTable.resolve?_in_place` — the lookup of a path by its rounds.
-/

variable {α : Type} {text path probe key shorter : List Char} {value : α}

/-! ### Operations at an offset -/

/-- What comes of an offset that is out of place. -/
inductive Misstep where
  /-- A byte is read behind the end of a text. -/
  | behindEnd
  /-- An offset is counted down below zero. -/
  | belowZero
  /-- A text is cut at an offset that is no character boundary. -/
  | insideCharacter
  deriving DecidableEq, Repr

/-- The byte at an offset. -/
def byteOf (text : List Char) (n : Nat) : Except Misstep UInt8 :=
  match Utf8.byteAt? text n with
  | some b => .ok b
  | none => .error .behindEnd

/-- The offset before. -/
def oneLess : Nat → Except Misstep Nat
  | 0 => .error .belowZero
  | n + 1 => .ok n

/-- Counts down from an offset until a character boundary is found. -/
def countDown (text : List Char) : Nat → Except Misstep Nat
  | 0 => if Utf8.isBoundary text 0 then .ok 0 else .error .belowZero
  | n + 1 => if Utf8.isBoundary text (n + 1) then .ok (n + 1) else countDown text n

/-- Cuts a text at an offset. A text that ends before is left as it is. -/
def cutAt (text : List Char) (n : Nat) : Except Misstep (List Char) :=
  if Utf8.size text < n then .ok text
  else match Utf8.takeBytes? text n with
    | some shorter => .ok shorter
    | none => .error .insideCharacter

/-- What follows an offset. -/
def restFrom (text : List Char) (n : Nat) : Except Misstep (List Char) :=
  match Utf8.dropBytes? text n with
  | some rest => .ok rest
  | none => .error .insideCharacter

/-- Whether a hit ends on a segment boundary of the path. The byte behind it is only read when the
    hit is neither the root nor as large as the path. -/
def endsSegmentAt (path key : List Char) : Except Misstep Bool :=
  if key = ['/'] ∨ Utf8.size path = Utf8.size key then .ok true
  else (byteOf path (Utf8.size key)).map (· == 0x2F)

/-- Behind a prefix that is not the whole path there is a byte. -/
theorem endsSegmentAt_eq (h : key <+: path) :
    endsSegmentAt path key = .ok (PathTable.endsSegment path key) := by
  by_cases hshort : key = ['/'] ∨ Utf8.size path = Utf8.size key
  · have hends : PathTable.endsSegment path key = true := by
      rcases hshort with hroot | hwhole
      · simp [PathTable.endsSegment, hroot]
      · simp [PathTable.endsSegment, hwhole]
    rw [endsSegmentAt, if_pos hshort, hends]
  · obtain ⟨hroot, hwhole⟩ := not_or.1 hshort
    have hlt : Utf8.size key < (Utf8.encode path).length := by
      rw [Utf8.length_encode]
      exact Nat.lt_of_le_of_ne (Utf8.size_le_of_prefix h) (Ne.symm hwhole)
    have hbyte : Utf8.byteAt? path (Utf8.size key) = some (Utf8.encode path)[Utf8.size key] :=
      List.getElem?_eq_getElem hlt
    simp [endsSegmentAt, PathTable.endsSegment, byteOf, hroot, hwhole, hbyte, Except.map]

/-- The start of a text is a boundary, so that counting down finds one at the latest there. -/
theorem countDown_eq (text : List Char) (n : Nat) :
    countDown text n = .ok (Utf8.floorBoundary text n) := by
  induction n with
  | zero =>
    have hstart : Utf8.isBoundary text 0 = true := Utf8.isBoundary_floorBoundary text 0
    rw [countDown, if_pos hstart, Utf8.floorBoundary]
  | succ n ih =>
    rw [countDown, Utf8.floorBoundary]
    split
    · rfl
    · exact ih

/-- A cut at the end of a prefix leaves the prefix. -/
theorem cutAt_eq_ok_of_takeBytes? {n : Nat} (h : Utf8.takeBytes? text n = some shorter) :
    cutAt text n = .ok shorter := by
  obtain ⟨hpre, hsize⟩ := Utf8.takeBytes?_eq_some_iff.1 h
  have hle : ¬ Utf8.size text < n := by
    have := Utf8.size_le_of_prefix hpre
    omega
  rw [cutAt, if_neg hle, h]

/-- What follows a prefix starts where the prefix ends. -/
theorem restFrom_append (key rest : List Char) :
    restFrom (key ++ rest) (Utf8.size key) = .ok rest := by
  rw [restFrom, Utf8.dropBytes?_append]

/-! ### One round -/

/-- How a round ends: with the answer of the search, or with the next probe. -/
inductive Turn (α : Type) where
  | answer (result : Option (List Char × α))
  | next (probe : List Char)

/-- The offsets of a round that hits a prefix. The bytes of the prefix are those that the path
    starts with. Unless it is the root or as large as the path, a byte of the path follows it. It
    has a size to take one off. Counting down from there finds a boundary of the probe, and the cut
    at this boundary makes the probe shorter. -/
structure InPlace (path probe key : List Char) : Prop where
  isPrefix : Utf8.encode key <+: Utf8.encode path
  inBounds : key ≠ ['/'] → Utf8.size path ≠ Utf8.size key → Utf8.size key < Utf8.size path
  isPositive : 0 < Utf8.size key
  cuts : ∃ cut shorter, countDown probe (Utf8.size key - 1) = .ok cut ∧
    Utf8.isBoundary probe cut = true ∧ cutAt probe cut = .ok shorter ∧
    Utf8.size shorter < Utf8.size probe

namespace PathTable

variable {t : PathTable α}

/-- One round of the search for a path. -/
def round (t : PathTable α) (path probe : List Char) : Except Misstep (Turn α) :=
  if probe = [] then .ok (.answer none)
  else match t.ancestor? probe with
    | none => .ok (.answer none)
    | some (key, value) => do
      let ends ← endsSegmentAt path key
      if ends then
        return .answer (some (key, value))
      else
        let start ← oneLess (Utf8.size key)
        let cut ← countDown probe start
        return .next (← cutAt probe cut)

/-- A search without a misstep: the probes of its rounds, the first one in front, and its answer. -/
inductive Search (t : PathTable α) (path : List Char) :
    List (List Char) → Option (List Char × α) → Prop where
  | ends {probe : List Char} {result : Option (List Char × α)}
      (round : t.round path probe = .ok (.answer result)) : Search t path [probe] result
  | goesOn {probe shorter : List Char} {probes : List (List Char)}
      {result : Option (List Char × α)} (round : t.round path probe = .ok (.next shorter))
      (later : Search t path (shorter :: probes) result) :
      Search t path (probe :: shorter :: probes) result

/-- The offsets of every round are in place. -/
theorem Probes.inPlace (hp : t.Probes path probe) (hhit : t.ancestor? probe = some (key, value))
    (hne : key ≠ []) : InPlace path probe key := by
  have hprobe : key <+: probe := (ancestor?_eq_some hhit).2.1
  have hpath : key <+: path := hprobe.trans hp.isPrefix
  obtain ⟨shorter, hcut, -, -, hlt⟩ := shorten_of_prefix hprobe hne
  refine ⟨?_, ?_, Utf8.size_pos_of_ne_nil hne, Utf8.floorBoundary probe (Utf8.size key - 1),
    shorter, countDown_eq probe _, Utf8.isBoundary_floorBoundary probe _,
    cutAt_eq_ok_of_takeBytes? hcut, hlt⟩
  · obtain ⟨rest, rfl⟩ := hpath
    rw [Utf8.encode_append]
    exact List.prefix_append _ _
  · intro _ hwhole
    exact Nat.lt_of_le_of_ne (Utf8.size_le_of_prefix hpath) (Ne.symm hwhole)

/-- A round with a hit answers with it or cuts the probe below it, as the table does. -/
theorem round_hit (hprobe : probe ≠ []) (hhit : t.ancestor? probe = some (key, value))
    (hkey : key <+: path) (hne : key ≠ []) (hcut : shorten probe key = some shorter) :
    t.round path probe =
      .ok (if endsSegment path key then .answer (some (key, value)) else .next shorter) := by
  obtain ⟨n, hn⟩ : ∃ n, Utf8.size key = n + 1 :=
    Nat.exists_eq_succ_of_ne_zero (Nat.ne_of_gt (Utf8.size_pos_of_ne_nil hne))
  have hless : oneLess (Utf8.size key) = .ok (Utf8.size key - 1) := by
    rw [hn]
    rfl
  have hcut' := cutAt_eq_ok_of_takeBytes? hcut
  rw [round, if_neg hprobe, hhit]
  simp only [endsSegmentAt_eq hkey, hless, countDown_eq, hcut', bind, Except.bind, pure,
    Except.pure]
  split <;> rfl

/-- A round makes no misstep. It answers what the table answers for the probe, or goes on with a
    shorter probe for which the table answers the same. -/
theorem Probes.round_outcome (hp : t.Probes path probe) (hne : ∀ e ∈ t.entries, e.1 ≠ []) :
    t.round path probe = .ok (.answer (t.resolveFrom path probe)) ∨
      ∃ shorter, t.round path probe = .ok (.next shorter) ∧
        t.resolveFrom path probe = t.resolveFrom path shorter ∧
        Utf8.size shorter < Utf8.size probe ∧ t.Probes path shorter := by
  by_cases hnil : probe = []
  · left
    rw [round, resolveFrom, if_pos hnil, if_pos hnil]
  cases hhit : t.ancestor? probe with
  | none =>
    left
    rw [round, resolveFrom, if_neg hnil, if_neg hnil, hhit]
  | some hit =>
    obtain ⟨key, value⟩ := hit
    obtain ⟨hmem, hkey, -⟩ := ancestor?_eq_some hhit
    have hpath : key <+: path := hkey.trans hp.isPrefix
    by_cases hends : endsSegment path key = true
    -- The round answers before it cuts, but below such a hit the probe could be cut as well.
    · obtain ⟨shorter, hcut, -⟩ := shorten_of_prefix hkey (hne _ hmem)
      left
      rw [round_hit hnil hhit hpath (hne _ hmem) hcut, resolveFrom, if_neg hnil, hhit]
      show _ = Except.ok (Turn.answer (if endsSegment path key = true then _ else _))
      rw [if_pos hends, if_pos hends]
    · have hinside : ¬ Covers key path := fun hcov => hends ((endsSegment_iff hpath).2 hcov)
      obtain ⟨shorter, hcut, hlt, hnext⟩ := hp.exists_shorten hhit (hne _ hmem) hinside
      refine .inr ⟨shorter, ?_, ?_, hlt, hnext⟩
      · rw [round_hit hnil hhit hpath (hne _ hmem) hcut, if_neg hends]
      · rw [resolveFrom, if_neg hnil, hhit]
        show (if endsSegment path key = true then _ else _) = _
        rw [if_neg hends, hcut]
        exact if_pos hlt

/-! ### A whole search -/

/-- A round has one outcome, so a search has one course and one answer. -/
theorem Search.unique {probes probes' : List (List Char)} {result result' : Option (List Char × α)}
    (h : t.Search path (probe :: probes) result) (h' : t.Search path (probe :: probes') result') :
    probes = probes' ∧ result = result' := by
  generalize hall : probe :: probes = all at h
  -- Along the first search: in each round the second one takes the same turn.
  induction h generalizing probe probes probes' with
  | ends hround =>
    obtain ⟨rfl, rfl⟩ := List.cons.inj hall
    cases h' with
    | ends hround' =>
      obtain ⟨⟩ := hround.symm.trans hround'
      exact ⟨rfl, rfl⟩
    | goesOn hround' _ => cases hround.symm.trans hround'
  | goesOn hround _ ih =>
    obtain ⟨rfl, rfl⟩ := List.cons.inj hall
    cases h' with
    | ends hround' => cases hround.symm.trans hround'
    | goesOn hround' later' =>
      obtain ⟨⟩ := hround.symm.trans hround'
      obtain ⟨rfl, rfl⟩ := ih later' rfl
      exact ⟨rfl, rfl⟩

/-- From any probe the rounds come to an end without a misstep, with the answer of the table. Each
    probe is shorter than the one before. -/
theorem exists_search (hne : ∀ e ∈ t.entries, e.1 ≠ []) (path : List Char) :
    ∀ probe, t.Probes path probe → ∃ probes,
      t.Search path (probe :: probes) (t.resolveFrom path probe) ∧
      (probe :: probes).IsChain (fun earlier later => Utf8.size later < Utf8.size earlier) ∧
      ∀ p ∈ probe :: probes, t.Probes path p := by
  intro probe
  -- By the size of the probe, which every round that goes on makes smaller.
  induction hn : Utf8.size probe using Nat.strongRecOn generalizing probe with
  | ind n ih =>
    intro hp
    rcases hp.round_outcome hne with hanswer | ⟨shorter, hround, hsame, hlt, hnext⟩
    · refine ⟨[], .ends hanswer, .singleton _, fun p hmem => ?_⟩
      rwa [List.mem_singleton.1 hmem]
    · obtain ⟨probes, hsearch, hchain, hall⟩ := ih _ (hn ▸ hlt) shorter rfl hnext
      refine ⟨shorter :: probes, ?_, .cons_cons hlt hchain, List.forall_mem_cons.2 ⟨hp, hall⟩⟩
      rw [hsame]
      exact .goesOn hround hsearch

/-- The search for a path goes through its rounds without a misstep and ends with the answer of the
    table. The probe gets shorter from round to round, and in every round with a hit the offsets are
    in place. What follows the prefix that is found starts at a character boundary of the path, and
    is handed on with a slash in front. -/
theorem resolve?_in_place (routes : List (String × α)) (path : String) :
    (∃ probes,
      (ofRoutes routes).Search path.toList (path.toList :: probes)
        ((ofRoutes routes).resolve? path) ∧
      (path.toList :: probes).Pairwise
        (fun earlier later => Utf8.size later < Utf8.size earlier) ∧
      ∀ probe ∈ path.toList :: probes, ∀ key value,
        (ofRoutes routes).ancestor? probe = some (key, value) → InPlace path.toList probe key) ∧
    ∀ key value, (ofRoutes routes).resolve? path = some (key, value) →
      Utf8.isBoundary path.toList (Utf8.size key) = true ∧
      ∃ rest, restFrom path.toList (Utf8.size key) = .ok rest ∧
        relativePart path.toList key = if rest.head? = some '/' then rest else '/' :: rest := by
  have hne := ne_nil_of_mem_ofRoutes routes
  constructor
  · obtain ⟨probes, hsearch, hchain, hall⟩ :=
      exists_search hne path.toList path.toList (.whole _ _)
    refine ⟨probes, hsearch, hchain.pairwise, fun probe hprobe key value hhit => ?_⟩
    exact (hall probe hprobe).inPlace hhit (hne _ (ancestor?_eq_some hhit).1)
  · intro key value hfound
    obtain ⟨rest, hrest⟩ := (isLongestCover_of_resolve? hfound).1.covers.isPrefix
    rw [← hrest]
    exact ⟨Utf8.isBoundary_iff.2 ⟨key, List.prefix_append key rest, rfl⟩, rest,
      restFrom_append key rest, relativePart_append key rest⟩

/-- The root, and a prefix that ends with a character of two bytes. -/
def accented : List (String × Nat) := [("/café", 0), ("/", 1)]

/-- A path that goes on behind the prefix within its segment takes two rounds. The first count
    starts within the character of two bytes and ends in front of it, the second round finds the
    root. -/
theorem resolve?_in_place_accented :
    (ofRoutes accented).ancestor? "/caféx".toList = some ("/café".toList, 0) ∧
      InPlace "/caféx".toList "/caféx".toList "/café".toList ∧
      (ofRoutes accented).ancestor? "/caf".toList = some ("/".toList, 1) ∧
      InPlace "/caféx".toList "/caf".toList "/".toList ∧
      (ofRoutes accented).resolve? "/caféx" = some ("/".toList, 1) ∧
      Utf8.isBoundary "/caféx".toList (Utf8.size "/".toList) = true := by
  have hfirst : (ofRoutes accented).ancestor? "/caféx".toList = some ("/café".toList, 0) := by rfl
  have hsecond : (ofRoutes accented).ancestor? "/caf".toList = some ("/".toList, 1) := by rfl
  have hrounds : (ofRoutes accented).Search "/caféx".toList ["/caféx".toList, "/caf".toList]
      (some ("/".toList, 1)) := .goesOn (by rfl) (.ends (by rfl))
  obtain ⟨⟨probes, hsearch, -, hplace⟩, hrest⟩ := resolve?_in_place accented "/caféx"
  obtain ⟨rfl, hfound⟩ := hsearch.unique hrounds
  exact ⟨hfirst, hplace _ (by simp) _ _ hfirst, hsecond, hplace _ (by simp) _ _ hsecond, hfound,
    (hrest _ _ hfound).1⟩

end PathTable

end Gatehouse.Routing
