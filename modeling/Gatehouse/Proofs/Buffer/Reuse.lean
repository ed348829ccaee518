import Gatehouse.Proofs.Buffer.Shelf

namespace Gatehouse.Buffer

/-!
# How buffers are used again

What a pool lends next can be told from what it lent and took back so far: the buffer that came back
last among those that are not on loan, with the bytes it came back with, and when there is none a
buffer that nobody had before, with zeros.

* `Pool.lent`, `Pool.returned` — the slices that steps lend and take back, the last one first;
* `Pool.idle` — those taken back that are not on loan;
* `Pool.Stacked` — the free list is what came back, the last one first, and below it what was never
  lent; `Pool.Stacked.top`, `Pool.Stacked.below`; `Pool.Stacked.take`, `Pool.Stacked.run`;
* `Pool.Sound.contents_run_of_free` — a free slice keeps its bytes until it is lent;
* `Pool.Recycled` — what a pool lends next and what becomes of bytes;
* `Pool.direct_like_heap` — a direct and a heap pool cannot be told apart, nor either of them from a
  shelf of separate buffers, and both recycle so.
-/

namespace Pool

variable {p : Pool} {s : Slice} {out back : List Slice}

/-! ### What was lent and taken back -/

/-- The slice that a step lends. -/
def lentBy (p : Pool) : PoolStep → List Slice
  | .allocate => (p.allocate.loan? p.loans.length).toList
  | .write _ _ _ | .release _ => []

/-- The slice that a step takes back. -/
def returnedBy (p : Pool) : PoolStep → List Slice
  | .release loan => (p.loan? loan).toList
  | .allocate | .write _ _ _ => []

/-- The slices lent by some steps, the last one first. -/
def lent (p : Pool) : List PoolStep → List Slice
  | [] => []
  | step :: steps => (p.take step).lent steps ++ p.lentBy step

/-- The slices taken back by some steps, the last one first. -/
def returned (p : Pool) : List PoolStep → List Slice
  | [] => []
  | step :: steps => (p.take step).returned steps ++ p.returnedBy step

/-- Of the slices that were taken back those that are not on loan. -/
def idle (p : Pool) (back : List Slice) : List Slice := back.filter (· ∉ p.onLoan)

/-- A pool that lent and took back these slices, the last ones first: on top of the free list are
    those taken back, and below them some that were never lent. -/
structure Stacked (out back : List Slice) (p : Pool) : Prop where
  onLoan_out : ∀ s ∈ p.onLoan, s ∈ out
  back_out : ∀ s ∈ back, s ∈ out
  out_mem : ∀ s ∈ out, s ∈ p.slices
  free : ∃ fresh, p.free = (p.idle back).eraseDups ++ fresh ∧
    ∀ s ∈ fresh, s ∉ out ∧ p.contents s = zeros p.bufferSize

theorem stacked_start (bufferSize perRegion : Nat) (direct : Bool) :
    (start bufferSize perRegion direct).Stacked [] [] :=
  ⟨nofun, nofun, nofun, [], rfl, nofun⟩

/-! ### One step -/

/-- A new region goes below, and is only made when nothing is above it. -/
theorem Stacked.ensureFree (h : p.Stacked out back) (hp : p.Sound) :
    p.ensureFree.Stacked out back := by
  rw [Pool.ensureFree]
  split
  · next hempty =>
    have hfree : p.free = [] := List.isEmpty_iff.1 hempty
    obtain ⟨fresh, hstack, -⟩ := h.free
    have hidle : (p.idle back).eraseDups = [] := (List.append_eq_nil_iff.1 (hstack ▸ hfree)).1
    have hslices : ∀ s ∈ p.slices, s ∈ p.grow.slices := fun s hs => by
      rw [slices_grow]
      exact List.mem_append_right _ hs
    refine ⟨h.onLoan_out, h.back_out, fun s hs => hslices s (h.out_mem s hs),
      p.regionSlices.reverse, ?_, fun s hs => ⟨fun hout => ?_, ?_⟩⟩
    · show p.regionSlices.reverse ++ p.free = (p.idle back).eraseDups ++ p.regionSlices.reverse
      rw [hfree, hidle, List.append_nil, List.nil_append]
    -- What was lent lies in an older block.
    · have hnewer := block_le_of_mem_regionSlices (List.mem_reverse.1 hs)
      have holder := (hp.within s (h.out_mem s hout)).block_lt
      rw [blockLengths, List.length_map] at holder
      omega
    · exact contents_regionSlices (List.mem_reverse.1 hs)
  · exact h

/-- On top of the free list is the slice taken back last of those not on loan, or if there is none a
    slice that was never lent. -/
theorem Stacked.top {rest : List Slice} (h : p.Stacked out back) (hfree : p.free = s :: rest) :
    (p.idle back).head? = some s ∧ s ∈ out ∨
      p.idle back = [] ∧ s ∉ out ∧ p.contents s = zeros p.bufferSize := by
  obtain ⟨fresh, hstack, hfresh⟩ := h.free
  rw [hfree] at hstack
  cases hidle : p.idle back with
  | nil =>
    rw [hidle] at hstack
    obtain rfl : s :: rest = fresh := hstack
    exact .inr ⟨rfl, hfresh s List.mem_cons_self⟩
  | cons top others =>
    rw [hidle, List.eraseDups_cons, List.cons_append, List.cons.injEq] at hstack
    obtain ⟨rfl, -⟩ := hstack
    have hback : s ∈ back := (List.mem_filter.1 (hidle ▸ List.mem_cons_self)).1
    exact .inl ⟨rfl, h.back_out s hback⟩

/-- Below the top are the others that were taken back, and then those that were never lent. -/
theorem Stacked.below {rest : List Slice} (h : p.Stacked out back) (hp : p.Sound)
    (hfree : p.free = s :: rest) :
    ∃ fresh, rest = ((p.idle back).filter fun t => !t == s).eraseDups ++ fresh ∧
      ∀ t ∈ fresh, t ∉ s :: out ∧ p.contents t = zeros p.bufferSize := by
  have hnodup : (s :: rest).Nodup := hfree ▸ (List.nodup_append.1 hp.nodup).1
  have hs : s ∉ rest := (List.nodup_cons.1 hnodup).1
  obtain ⟨fresh, hstack, hfresh⟩ := h.free
  rw [hfree] at hstack
  have hnever : ∀ t ∈ fresh, t ∈ rest → t ∉ s :: out ∧ p.contents t = zeros p.bufferSize := by
    intro t ht hrest
    obtain ⟨hout, hzeros⟩ := hfresh t ht
    exact ⟨fun hmem => (List.mem_cons.1 hmem).elim (fun hts => hs (hts ▸ hrest)) hout, hzeros⟩
  cases hidle : p.idle back with
  | nil =>
    rw [hidle] at hstack
    obtain rfl : s :: rest = fresh := hstack
    exact ⟨rest, rfl, fun t ht => hnever t (List.mem_cons_of_mem s ht) ht⟩
  | cons top others =>
    rw [hidle, List.eraseDups_cons, List.cons_append, List.cons.injEq] at hstack
    obtain ⟨rfl, rfl⟩ := hstack
    refine ⟨fresh, ?_, fun t ht => hnever t ht (List.mem_append_right _ ht)⟩
    rw [List.filter_cons_of_neg (by simp)]

/-- The slice that was lent is not idle any more. -/
theorem idle_lend {rest : List Slice} (hfree : p.free = s :: rest) (back : List Slice) :
    p.lend.idle back = (p.idle back).filter fun t => !t == s := by
  rw [idle, idle, List.filter_filter, onLoan_lend hfree]
  refine List.filter_congr fun t _ => ?_
  by_cases hts : t = s <;> simp [hts]

/-- Lending takes the top off the free list. -/
theorem Stacked.lend {rest : List Slice} (h : p.Stacked out back) (hp : p.Sound)
    (hfree : p.free = s :: rest) : p.lend.Stacked (s :: out) back := by
  have hne : p.free ≠ [] := List.ne_nil_of_mem (hfree ▸ List.mem_cons_self)
  have hslices : ∀ t, t ∈ p.lend.slices ↔ t ∈ p.slices := fun t => (perm_slices_lend hne).mem_iff
  have hs : s ∈ p.slices := List.mem_append_left _ (hfree ▸ List.mem_cons_self)
  obtain ⟨fresh, hrest, hfresh⟩ := h.below hp hfree
  refine ⟨fun t ht => ?_, fun t ht => List.mem_cons_of_mem s (h.back_out t ht), fun t ht => ?_,
    fresh, ?_, fun t ht => ⟨(hfresh t ht).1, ?_⟩⟩
  · rw [onLoan_lend hfree, List.mem_append, List.mem_singleton] at ht
    rcases ht with ht | rfl
    · exact List.mem_cons_of_mem s (h.onLoan_out t ht)
    · exact List.mem_cons_self
  · rw [hslices]
    rcases List.mem_cons.1 ht with rfl | ht
    · exact hs
    · exact h.out_mem t ht
  · rw [idle_lend hfree, ← hrest, lend_of_free hfree]
  · rw [contents_lend hne, (hfresh t ht).2, lend_of_free hfree]

/-- The slices on loan without the one that is taken back. -/
theorem mem_onLoan_release {loan : Nat} (hp : p.Sound) (hloan : p.loan? loan = some s) (t : Slice) :
    t ∈ (p.release loan).2.onLoan ↔ t ∈ p.onLoan ∧ t ≠ s := by
  obtain ⟨before, after, hout, hback⟩ := exists_onLoan_release hloan
  have hnodup : (s :: (before ++ after)).Nodup := by
    have honLoan : p.onLoan.Nodup := (List.nodup_append.1 hp.nodup).2.1
    rw [hout] at honLoan
    exact (List.perm_middle.nodup_iff).1 honLoan
  have hs := (List.nodup_cons.1 hnodup).1
  rw [hback, hout, List.mem_append, List.mem_append, List.mem_cons]
  constructor
  · intro ht
    exact ⟨ht.imp_right .inr, fun hts => hs (List.mem_append.2 (hts ▸ ht))⟩
  · rintro ⟨ht | rfl | ht, hts⟩
    · exact .inl ht
    · exact absurd rfl hts
    · exact .inr ht

/-- The free list grows by what is taken back. -/
theorem Stacked.release {loan : Nat} (h : p.Stacked out back) (hp : p.Sound)
    (hloan : p.loan? loan = some s) : (p.release loan).2.Stacked out (s :: back) := by
  have hmem := mem_onLoan_release hp hloan
  have hs : s ∈ p.onLoan := mem_onLoan_of_loan? hloan
  refine ⟨fun t ht => h.onLoan_out t ((hmem t).1 ht).1, fun t ht => ?_, fun t ht => ?_, ?_⟩
  · rcases List.mem_cons.1 ht with rfl | ht
    · exact h.onLoan_out _ hs
    · exact h.back_out t ht
  · rw [(p.perm_slices_release loan).mem_iff]
    exact h.out_mem t ht
  obtain ⟨fresh, hstack, hfresh⟩ := h.free
  have hfree : (p.release loan).2.free = s :: p.free := by rw [release_of_loan? hloan]
  -- What is taken back goes on top, and comes up once.
  have hidle : ((p.release loan).2.idle (s :: back)).eraseDups = s :: (p.idle back).eraseDups := by
    rw [idle, List.filter_cons_of_pos (by simp [hmem]), List.eraseDups_cons, List.filter_filter,
      idle]
    congr 2
    refine List.filter_congr fun t _ => ?_
    by_cases hts : t = s <;> simp [hmem, hts, hs]
  refine ⟨fresh, ?_, fun t ht => ⟨(hfresh t ht).1, ?_⟩⟩
  · rw [hfree, hidle, hstack, List.cons_append]
  · rw [contents_release, (hfresh t ht).2, (p.sizes_release loan).1]

/-- A write moves no slice, and only goes into slices that were lent. -/
theorem Stacked.write (h : p.Stacked out back) (hp : p.Sound) (loan offset : Nat) (bytes : Bytes) :
    (p.take (.write loan offset bytes)).Stacked out back := by
  obtain ⟨fresh, hstack, hfresh⟩ := h.free
  -- What was never lent is not on loan, so that no write goes there.
  have hkept : ∀ t ∈ fresh, (p.take (.write loan offset bytes)).contents t = p.contents t := by
    intro t ht
    have hmem : t ∈ p.free := by
      rw [hstack]
      exact List.mem_append_right _ ht
    refine hp.contents_write_of_ne (List.mem_append_left _ hmem) fun hloan => ?_
    exact (hfresh t ht).1 (h.onLoan_out t (mem_onLoan_of_loan? hloan))
  have honLoan : (p.take (.write loan offset bytes)).onLoan = p.onLoan := by
    rw [take_write_eq]
    rfl
  have hfree : (p.take (.write loan offset bytes)).free = p.free := by rw [take_write_eq]
  refine ⟨?_, h.back_out, ?_, fresh, ?_, fun t ht => ⟨(hfresh t ht).1, ?_⟩⟩
  · rw [honLoan]
    exact h.onLoan_out
  · rw [slices, hfree, honLoan]
    exact h.out_mem
  · rw [hfree, idle, honLoan]
    exact hstack
  · rw [hkept t ht, (hfresh t ht).2, (p.sizes_take _).1]

/-- A step puts what it lends and takes back in front of what was lent and taken back before. -/
theorem Stacked.take (h : p.Stacked out back) (hp : p.Sound) (step : PoolStep) :
    (p.take step).Stacked (p.lentBy step ++ out) (p.returnedBy step ++ back) := by
  cases step with
  | allocate =>
    obtain ⟨s, rest, hfree⟩ := List.exists_cons_of_ne_nil hp.free_ensureFree
    rw [lentBy, loan?_allocate hfree]
    exact (h.ensureFree hp).lend hp.ensureFree hfree
  | write loan offset bytes => exact h.write hp loan offset bytes
  | release loan =>
    rw [returnedBy]
    cases hloan : p.loan? loan with
    | none =>
      rw [Pool.take, release_of_returned hloan]
      exact h
    | some s => exact h.release hp hloan

/-- After any steps the free list is what came back, over what was never lent. -/
theorem Stacked.run (h : p.Stacked out back) (hp : p.Sound) (steps : List PoolStep) :
    (p.run steps).Stacked (p.lent steps ++ out) (p.returned steps ++ back) := by
  induction steps generalizing p out back with
  | nil => exact h
  | cons step steps ih =>
    have hlater := ih (h.take hp step) (hp.take step)
    rwa [← List.append_assoc, ← List.append_assoc] at hlater

/-! ### Bytes of free slices -/

/-- A free slice is not on loan. -/
theorem Sound.loan?_ne_of_free (h : p.Sound) (hs : s ∈ p.free) (loan : Nat) :
    p.loan? loan ≠ some s := fun hloan =>
  (List.nodup_append.1 h.nodup).2.2 s hs s (mem_onLoan_of_loan? hloan) rfl

/-- A free slice stays free unless it is lent. -/
theorem Sound.free_take (h : p.Sound) (hs : s ∈ p.free) (step : PoolStep)
    (hlent : s ∉ p.lentBy step) : s ∈ (p.take step).free := by
  cases step with
  | allocate =>
    -- There is a free slice, so no region is added, and the one lent is on top.
    have hensure : p.ensureFree = p := by
      rw [Pool.ensureFree, if_neg]
      rw [List.isEmpty_iff]
      exact List.ne_nil_of_mem hs
    obtain ⟨top, rest, hfree⟩ := List.exists_cons_of_ne_nil h.free_ensureFree
    rw [lentBy, loan?_allocate hfree] at hlent
    rw [hensure] at hfree
    have hrest : (p.take .allocate).free = rest := by
      show p.ensureFree.lend.free = rest
      rw [hensure, lend_of_free hfree]
    rw [hfree, List.mem_cons] at hs
    rw [hrest]
    exact hs.resolve_left fun htop => hlent (by simp [htop])
  | write loan offset bytes =>
    rw [take_write_eq]
    exact hs
  | release loan =>
    show s ∈ (p.release loan).2.free
    cases hloan : p.loan? loan with
    | none => rwa [release_of_returned hloan]
    | some t =>
      rw [release_of_loan? hloan]
      exact List.mem_cons_of_mem t hs

/-- A free slice keeps its bytes until it is lent. -/
theorem Sound.contents_run_of_free (h : p.Sound) (hs : s ∈ p.free) (steps : List PoolStep)
    (hlent : s ∉ p.lent steps) : (p.run steps).contents s = p.contents s := by
  induction steps generalizing p with
  | nil => rfl
  | cons step steps ih =>
    rw [lent, List.mem_append, not_or] at hlent
    have hstep : (p.take step).contents s = p.contents s :=
      h.contents_take step (List.mem_append_left _ hs) fun loan _ _ _ => h.loan?_ne_of_free hs loan
    exact (ih (h.take step) (h.free_take hs step hlent.2) hlent.1).trans hstep

/-! ### What is lent next -/

/-- How a pool goes on that lent and took back these slices, the last ones first, in loans of which
    these are out. -/
structure Recycled (loans : List Bool) (out back : List Slice) (p : Pool) : Prop where
  /-- A loan has a slice while it is out. -/
  loan : p.loans.map Option.isSome = loans
  /-- Lent next is the slice that came back last of those not on loan, with the bytes it has, and if
      there is none a slice that was never lent, with zeros. -/
  next : ∃ s, p.allocate.loan? p.loans.length = some s ∧
    ((p.idle back).head? = some s ∧ p.allocate.contents s = p.contents s ∨
      p.idle back = [] ∧ s ∉ out ∧ p.allocate.contents s = zeros p.bufferSize)
  /-- What is read through a loan are the bytes of its slice. -/
  read : ∀ loan offset n s, p.loan? loan = some s →
    p.read loan offset n
      = if offset + n ≤ s.length then .done (((p.contents s).drop offset).take n) else .outOfBounds
  /-- A write through a loan changes the bytes of its slice where they are written. -/
  written : ∀ loan offset bytes s, p.loan? loan = some s →
    (p.take (.write loan offset bytes)).contents s
      = if offset + bytes.length ≤ s.length then overwrite (p.contents s) offset bytes
        else p.contents s
  /-- No other step changes the bytes of a slice. -/
  kept : ∀ step, ∀ s ∈ p.slices,
    (∀ loan offset bytes, step = .write loan offset bytes → p.loan? loan ≠ some s) →
    (p.take step).contents s = p.contents s
  /-- A free slice keeps its bytes until it is lent. -/
  idle : ∀ s ∈ p.free, ∀ steps, s ∉ p.lent steps → (p.run steps).contents s = p.contents s

/-- What is lent next is the top of the free list. -/
theorem Stacked.next (h : p.Stacked out back) (hp : p.Sound) :
    ∃ s, p.allocate.loan? p.loans.length = some s ∧
      ((p.idle back).head? = some s ∧ p.allocate.contents s = p.contents s ∨
        p.idle back = [] ∧ s ∉ out ∧ p.allocate.contents s = zeros p.bufferSize) := by
  obtain ⟨s, rest, hfree⟩ := List.exists_cons_of_ne_nil hp.free_ensureFree
  refine ⟨s, loan?_allocate hfree, ?_⟩
  have hidle : p.ensureFree.idle back = p.idle back := by
    rw [Pool.idle, Pool.idle, onLoan_ensureFree]
  have htop := (h.ensureFree hp).top hfree
  rw [hidle] at htop
  rcases htop with ⟨hhead, hout⟩ | ⟨hnone, hout, hzeros⟩
  · refine .inl ⟨hhead, hp.contents_take .allocate (h.out_mem s hout) ?_⟩
    intro loan offset bytes hwrite
    cases hwrite
  · have hsize : p.ensureFree.bufferSize = p.bufferSize := by
      rw [Pool.ensureFree]
      split <;> rfl
    refine .inr ⟨hnone, hout, ?_⟩
    rw [Pool.allocate, contents_lend hp.free_ensureFree, hzeros, hsize]

theorem read_of_loan? {loan : Nat} (offset n : Nat) (h : p.loan? loan = some s) :
    p.read loan offset n
      = if offset + n ≤ s.length then .done (((p.contents s).drop offset).take n)
        else .outOfBounds := by
  rw [Pool.read, h]

theorem Stacked.recycled (h : p.Stacked out back) (hp : p.Sound) :
    p.Recycled p.out out back where
  loan := rfl
  next := h.next hp
  read _ offset n _ hloan := read_of_loan? offset n hloan
  written _ _ _ _ hloan := hp.contents_write hloan
  kept step _ hs hother := hp.contents_take step hs hother
  idle _ hs steps hlent := hp.contents_run_of_free hs steps hlent

/-- A direct pool and a heap pool answer any calls as a shelf of separate buffers does, and so
    alike. Both lend their buffers again in the same order and with the bytes that were last written
    into them. -/
theorem direct_like_heap (bufferSize perRegion : Nat) :
    (∀ direct calls, (start bufferSize perRegion direct).replies calls
      = (Shelf.start bufferSize perRegion).replies calls) ∧
    (∀ calls, (start bufferSize perRegion true).replies calls
      = (start bufferSize perRegion false).replies calls) ∧
    ∀ direct steps,
      ((start bufferSize perRegion direct).run steps).Recycled
        (PoolStep.ledger steps)
        ((start bufferSize perRegion direct).lent steps)
        ((start bufferSize perRegion direct).returned steps) := by
  have hshelf : ∀ direct calls, (start bufferSize perRegion direct).replies calls
      = (Shelf.start bufferSize perRegion).replies calls := fun direct calls => by
    rw [(sound_start bufferSize perRegion direct).replies_shelf, shelf_start]
  refine ⟨hshelf, fun calls => (hshelf true calls).trans (hshelf false calls).symm,
    fun direct steps => ?_⟩
  have hstart := sound_start bufferSize perRegion direct
  have hstacked := (stacked_start bufferSize perRegion direct).run hstart steps
  rw [List.append_nil, List.append_nil] at hstacked
  rw [← out_run_start bufferSize perRegion direct steps]
  exact hstacked.recycled (hstart.run steps)

end Pool

end Gatehouse.Buffer
