import Gatehouse.Buffer.Pool
import Gatehouse.Proofs.Places
import Mathlib.Data.List.Perm.Basic

namespace Gatehouse.Buffer

/-!
# Conservation of buffers

A pool neither loses a buffer nor lends one twice, and it has no more regions than the most buffers
ever on loan at a time called for. Both follow from what it holds: the slices on the free list and
those on loan, which lending and taking back only move from one list to the other.

* `Slice.Apart`, `Slice.Within` — slices that share no byte, and slices that lie in their block;
* `PoolStep`, `Pool.run` — what happens to a pool;
* `PoolStep.ledger`, `PoolStep.mostOut` — the loans that are out and the most of them at a time,
  told from what happened alone; `Pool.out_take` — the pool keeps the same accounts;
* `Pool.slices` — all slices of a pool; `Pool.perm_slices_lend`, `Pool.perm_slices_release` — they
  stay the same until a region is added;
* `Pool.Sound` — the invariant; `Pool.Sound.take`, `Pool.Sound.run`;
* `Pool.Covers` — the regions reach up to a number of loans, and one region less would not;
  `Pool.Covers.take`, `Pool.Covers.run`;
* `Pool.Conserved`, `Pool.run_conserves` — a pool after any steps.
-/

/-! ### Slices -/

namespace Slice

/-- The slices share no byte. -/
def Apart (s t : Slice) : Prop :=
  s.block ≠ t.block ∨ s.start + s.length ≤ t.start ∨ t.start + t.length ≤ s.start

theorem Apart.symm {s t : Slice} (h : s.Apart t) : t.Apart s := by
  rcases h with hblock | hbefore | hafter
  · exact .inl hblock.symm
  · exact .inr (.inr hbefore)
  · exact .inr (.inl hafter)

/-- A slice that holds something is not apart from itself. -/
theorem Apart.ne {s t : Slice} (h : s.Apart t) (hpos : 0 < s.length) : s ≠ t := by
  rintro rfl
  rcases h with hblock | hbefore | hafter
  · exact hblock rfl
  · omega
  · omega

/-- The slice lies in a block, of those with the given lengths. -/
def Within (s : Slice) (lengths : List Nat) : Prop :=
  ∃ n, lengths[s.block]? = some n ∧ s.start + s.length ≤ n

/-- More blocks do not matter to a slice that lies in one. -/
theorem Within.append {s : Slice} {lengths : List Nat} (h : s.Within lengths) (more : List Nat) :
    s.Within (lengths ++ more) := by
  obtain ⟨n, hn, hle⟩ := h
  have hlt : s.block < lengths.length := (List.getElem?_eq_some_iff.1 hn).1
  exact ⟨n, by rw [List.getElem?_append_left hlt, hn], hle⟩

theorem Within.block_lt {s : Slice} {lengths : List Nat} (h : s.Within lengths) :
    s.block < lengths.length := by
  obtain ⟨n, hn, -⟩ := h
  exact (List.getElem?_eq_some_iff.1 hn).1

end Slice

/-! ### What happens to a pool -/

/-- What happens to a pool: a buffer is lent, bytes are written into a buffer on loan, or a buffer
    comes back. Loans are known by their number. -/
inductive PoolStep where
  | allocate
  | write (loan offset : Nat) (bytes : Bytes)
  | release (loan : Nat)
  deriving DecidableEq, Repr

namespace PoolStep

/-- Which loans are out after a step, given those before it: the next one from its allocation on,
    until it comes back. -/
def tally (out : List Bool) : PoolStep → List Bool
  | .allocate => out ++ [true]
  | .write _ _ _ => out
  | .release loan => out.set loan false

/-- Which of the loans that steps make are out in the end. -/
def ledger (steps : List PoolStep) : List Bool := steps.foldl tally []

/-- The most loans out at a time, from now on until the steps are taken. -/
def mostOut (out : List Bool) : List PoolStep → Nat
  | [] => out.count true
  | step :: steps => max (out.count true) (mostOut (step.tally out) steps)

theorem count_le_mostOut (out : List Bool) (steps : List PoolStep) :
    out.count true ≤ mostOut out steps := by
  cases steps with
  | nil => exact Nat.le_refl _
  | cons step steps => exact Nat.le_max_left _ _

end PoolStep

namespace Pool

/-- One step. A loan that was returned is neither written nor returned again, and a write that would
    go beyond the buffer does not take place. -/
def take (p : Pool) : PoolStep → Pool
  | .allocate => p.allocate
  | .write loan offset bytes =>
    match p.write loan offset bytes with
    | .done q => q
    | .returned | .outOfBounds => p
  | .release loan => (p.release loan).2

/-- Steps one after another. -/
def run (p : Pool) (steps : List PoolStep) : Pool := steps.foldl take p

/-! ### All slices of a pool -/

/-- The slices of a pool: those on the free list and those on loan. -/
def slices (p : Pool) : List Slice := p.free ++ p.onLoan

theorem length_slices (p : Pool) : p.slices.length = p.available + p.onLoan.length :=
  List.length_append

/-- A loan that was not returned is the slice at its number. -/
theorem loan?_eq_some_iff {p : Pool} {loan : Nat} {s : Slice} :
    p.loan? loan = some s ↔ p.loans[loan]? = some (some s) := by
  rw [loan?, Option.join_eq_some_iff]

theorem mem_onLoan_of_loan? {p : Pool} {loan : Nat} {s : Slice} (h : p.loan? loan = some s) :
    s ∈ p.onLoan := by
  have hmem : some s ∈ p.loans := List.mem_of_getElem? (loan?_eq_some_iff.1 h)
  exact List.mem_filterMap.2 ⟨some s, hmem, rfl⟩

theorem mem_slices_of_loan? {p : Pool} {loan : Nat} {s : Slice} (h : p.loan? loan = some s) :
    s ∈ p.slices :=
  List.mem_append_right _ (mem_onLoan_of_loan? h)

/-- A free slice is lent under the next number. -/
theorem lend_of_free {p : Pool} {s : Slice} {rest : List Slice} (hfree : p.free = s :: rest) :
    p.lend = { p with free := rest, loans := p.loans ++ [some s] } := by
  rw [lend, hfree]

theorem onLoan_lend {p : Pool} {s : Slice} {rest : List Slice} (hfree : p.free = s :: rest) :
    p.lend.onLoan = p.onLoan ++ [s] := by
  rw [lend_of_free hfree, onLoan, List.filterMap_append]
  rfl

/-- Lending moves a slice from the free list to those on loan. -/
theorem perm_slices_lend {p : Pool} (hfree : p.free ≠ []) : p.lend.slices.Perm p.slices := by
  obtain ⟨s, rest, hp⟩ := List.exists_cons_of_ne_nil hfree
  have hrest : p.lend.free = rest := by rw [lend_of_free hp]
  rw [slices, slices, hrest, onLoan_lend hp, hp, ← List.append_assoc]
  exact List.perm_append_singleton s (rest ++ p.onLoan)

/-- A loan that was not returned comes back on top of the free list. -/
theorem release_of_loan? {p : Pool} {loan : Nat} {s : Slice} (h : p.loan? loan = some s) :
    p.release loan = (true, { p with free := s :: p.free, loans := p.loans.set loan none }) := by
  rw [release, h]

/-- A loan that was returned does not come back again. -/
theorem release_of_returned {p : Pool} {loan : Nat} (h : p.loan? loan = none) :
    p.release loan = (false, p) := by
  rw [release, h]

/-- The slices on loan are those in front of a loan that comes back and those behind it. -/
theorem exists_onLoan_release {p : Pool} {loan : Nat} {s : Slice} (h : p.loan? loan = some s) :
    ∃ before after, p.onLoan = before ++ s :: after ∧
      (p.release loan).2.onLoan = before ++ after := by
  obtain ⟨before, after, hloans, hset, -⟩ :=
    Places.exists_split_of_getElem? (loan?_eq_some_iff.1 h)
  refine ⟨before.filterMap id, after.filterMap id, ?_, ?_⟩
  · rw [onLoan, hloans, List.filterMap_append]
    rfl
  · rw [release_of_loan? h, onLoan, hset, List.filterMap_append]
    rfl

/-- A loan that comes back moves from the slices on loan to the free list. -/
theorem perm_slices_release (p : Pool) (loan : Nat) :
    (p.release loan).2.slices.Perm p.slices := by
  cases hloan : p.loan? loan with
  | none => rw [release_of_returned hloan]
  | some s =>
    obtain ⟨before, after, hout, hback⟩ := exists_onLoan_release hloan
    have hfree : (p.release loan).2.free = s :: p.free := by rw [release_of_loan? hloan]
    rw [slices, slices, hfree, hback, hout, List.cons_append, ← List.append_assoc,
      ← List.append_assoc]
    exact List.perm_middle.symm

/-- A region brings its own slices. -/
theorem slices_grow (p : Pool) : p.grow.slices = p.regionSlices.reverse ++ p.slices :=
  List.append_assoc _ _ _

/-! ### What a pool keeps -/

/-- The lengths of the blocks of a pool. -/
def blockLengths (p : Pool) : List Nat := p.blocks.map List.length

/-- The slices of a pool are as many as its regions account for. Each has the size of the buffers
    and lies in its block, and no two of them share a byte. -/
structure Sound (p : Pool) : Prop where
  size_pos : 0 < p.bufferSize
  perRegion_pos : 0 < p.perRegion
  count : p.slices.length = p.regions * p.perRegion
  length : ∀ s ∈ p.slices, s.length = p.bufferSize
  within : ∀ s ∈ p.slices, s.Within p.blockLengths
  apart : p.slices.Pairwise Slice.Apart

theorem sound_start (bufferSize perRegion : Nat) (direct : Bool) :
    (start bufferSize perRegion direct).Sound := by
  refine ⟨?_, ?_, ?_, fun s hs => absurd hs List.not_mem_nil,
    fun s hs => absurd hs List.not_mem_nil, List.Pairwise.nil⟩
  · exact Nat.lt_of_lt_of_le Nat.one_pos (Nat.le_max_right bufferSize 1)
  · exact Nat.lt_of_lt_of_le Nat.one_pos (Nat.le_max_right perRegion 1)
  · exact (Nat.zero_mul _).symm

variable {p q : Pool}

/-- Slices that hold something and share no byte are different. -/
theorem Sound.nodup (h : p.Sound) : p.slices.Nodup :=
  h.apart.imp_of_mem fun hs _ hapart => hapart.ne (by rw [h.length _ hs]; exact h.size_pos)

/-- A pool stays sound when its slices change places. -/
theorem Sound.of_perm (h : p.Sound) (hslices : q.slices.Perm p.slices)
    (hblocks : q.blockLengths = p.blockLengths) (hsize : q.bufferSize = p.bufferSize)
    (hper : q.perRegion = p.perRegion) (hregions : q.regions = p.regions) : q.Sound where
  size_pos := hsize ▸ h.size_pos
  perRegion_pos := hper ▸ h.perRegion_pos
  count := by rw [hslices.length_eq, h.count, hregions, hper]
  length s hs := by rw [h.length s (hslices.mem_iff.1 hs), hsize]
  within s hs := by
    rw [hblocks]
    exact h.within s (hslices.mem_iff.1 hs)
  apart := (hslices.pairwise_iff Slice.Apart.symm).2 h.apart

/-! ### A new region -/

/-- The slices of a region are those of its places. -/
theorem mem_regionSlices_iff {s : Slice} :
    s ∈ p.regionSlices ↔ ∃ i < p.perRegion,
      s = if p.direct then ⟨p.blocks.length, i * p.bufferSize, p.bufferSize⟩
        else ⟨p.blocks.length + i, 0, p.bufferSize⟩ := by
  simp only [regionSlices, List.mem_map, List.mem_range, eq_comm (a := s)]

/-- The slices of a region lie behind all older blocks. -/
theorem block_le_of_mem_regionSlices {s : Slice} (h : s ∈ p.regionSlices) :
    p.blocks.length ≤ s.block := by
  obtain ⟨i, -, rfl⟩ := mem_regionSlices_iff.1 h
  cases p.direct
  · exact Nat.le_add_right _ _
  · exact Nat.le_refl _

theorem length_of_mem_regionSlices {s : Slice} (h : s ∈ p.regionSlices) :
    s.length = p.bufferSize := by
  obtain ⟨i, -, rfl⟩ := mem_regionSlices_iff.1 h
  cases p.direct <;> rfl

/-- The slices of a region lie in its blocks. -/
theorem within_of_mem_regionSlices {s : Slice} (h : s ∈ p.regionSlices) :
    s.Within p.grow.blockLengths := by
  obtain ⟨i, hi, rfl⟩ := mem_regionSlices_iff.1 h
  cases hdirect : p.direct with
  | false =>
    refine ⟨p.bufferSize, ?_, by simp⟩
    simp [blockLengths, grow, regionBlocks, hdirect, zeros, hi]
  | true =>
    refine ⟨p.bufferSize * p.perRegion, ?_, ?_⟩
    · simp [blockLengths, grow, regionBlocks, hdirect, zeros]
    · show i * p.bufferSize + p.bufferSize ≤ p.bufferSize * p.perRegion
      calc i * p.bufferSize + p.bufferSize = (i + 1) * p.bufferSize := (Nat.succ_mul _ _).symm
        _ ≤ p.perRegion * p.bufferSize := Nat.mul_le_mul_right _ hi
        _ = p.bufferSize * p.perRegion := Nat.mul_comm _ _

/-- The slices of a region are carved side by side, or have a block each. -/
theorem pairwise_regionSlices (p : Pool) : p.regionSlices.Pairwise Slice.Apart := by
  refine List.Pairwise.map _ (fun i j hij => ?_) List.pairwise_lt_range
  cases p.direct with
  | false => exact .inl (by show p.blocks.length + i ≠ p.blocks.length + j; omega)
  | true =>
    refine .inr (.inl ?_)
    show i * p.bufferSize + p.bufferSize ≤ j * p.bufferSize
    rw [← Nat.succ_mul]
    exact Nat.mul_le_mul_right _ hij

theorem Sound.grow (h : p.Sound) : p.grow.Sound where
  size_pos := h.size_pos
  perRegion_pos := h.perRegion_pos
  count := by
    rw [slices_grow, List.length_append, List.length_reverse, length_regionSlices, h.count]
    show p.perRegion + p.regions * p.perRegion = (p.regions + 1) * p.perRegion
    rw [Nat.succ_mul, Nat.add_comm]
  length s hs := by
    rw [slices_grow, List.mem_append, List.mem_reverse] at hs
    rcases hs with hnew | hold
    · exact length_of_mem_regionSlices (p := p) hnew
    · exact h.length s hold
  within s hs := by
    rw [slices_grow, List.mem_append, List.mem_reverse] at hs
    rcases hs with hnew | hold
    · exact within_of_mem_regionSlices hnew
    · have hmore : p.grow.blockLengths = p.blockLengths ++ p.regionBlocks.map List.length :=
        List.map_append
      rw [hmore]
      exact (h.within s hold).append _
  apart := by
    rw [slices_grow, List.pairwise_append]
    refine ⟨?_, h.apart, fun s hnew t hold => .inl ?_⟩
    · rw [List.pairwise_reverse]
      exact p.pairwise_regionSlices.imp Slice.Apart.symm
    -- An older slice lies in an older block.
    · have hnewer := block_le_of_mem_regionSlices (List.mem_reverse.1 hnew)
      have holder := (h.within t hold).block_lt
      rw [blockLengths, List.length_map] at holder
      omega

/-! ### One step -/

/-- A pool that made sure of a free slice has one. -/
theorem Sound.free_ensureFree (h : p.Sound) : p.ensureFree.free ≠ [] := by
  unfold ensureFree
  split
  · intro hnil
    have hlength := congrArg List.length hnil
    have hpos := h.perRegion_pos
    simp only [Pool.grow, List.length_append, List.length_reverse, length_regionSlices,
      List.length_nil] at hlength
    omega
  · next hfree => exact fun hnil => hfree (hnil ▸ rfl)

theorem Sound.ensureFree (h : p.Sound) : p.ensureFree.Sound := by
  unfold Pool.ensureFree
  split
  · exact h.grow
  · exact h

theorem Sound.allocate (h : p.Sound) : p.allocate.Sound := by
  obtain ⟨s, rest, hp⟩ := List.exists_cons_of_ne_nil h.free_ensureFree
  refine h.ensureFree.of_perm (perm_slices_lend h.free_ensureFree) ?_ ?_ ?_ ?_ <;>
    simp [Pool.allocate, lend, hp, blockLengths]

theorem Sound.release (h : p.Sound) (loan : Nat) : (p.release loan).2.Sound := by
  refine h.of_perm (p.perm_slices_release loan) ?_ ?_ ?_ ?_ <;>
    cases hloan : p.loan? loan <;> simp [Pool.release, hloan, blockLengths]

/-- A slice that lies in its block, with the block. -/
theorem exists_block {s : Slice} (h : s.Within p.blockLengths) :
    ∃ block, p.blocks[s.block]? = some block ∧ p.blocks.getD s.block [] = block ∧
      s.start + s.length ≤ block.length := by
  obtain ⟨n, hn, hend⟩ := h
  rw [blockLengths, List.getElem?_map, Option.map_eq_some_iff] at hn
  obtain ⟨block, hblock, rfl⟩ := hn
  exact ⟨block, hblock, by rw [List.getD_eq_getElem?_getD, hblock, Option.getD_some], hend⟩

/-- The pool with bytes written at an offset of a slice. -/
def put (p : Pool) (s : Slice) (offset : Nat) (bytes : Bytes) : Pool :=
  let block := overwrite (p.blocks.getD s.block []) (s.start + offset) bytes
  { p with blocks := p.blocks.set s.block block }

variable {loan offset : Nat} {bytes : Bytes}

/-- Through a loan bytes are written into its slice, if they fit. -/
theorem take_write_of_loan? {s : Slice} (h : p.loan? loan = some s) :
    p.take (.write loan offset bytes)
      = if offset + bytes.length ≤ s.length then p.put s offset bytes else p := by
  simp only [take, write, h]
  by_cases hfits : offset + bytes.length ≤ s.length
  · simp only [if_pos hfits, put]
  · simp only [if_neg hfits]

/-- Through a loan that was returned nothing is written. -/
theorem take_write_of_returned (h : p.loan? loan = none) :
    p.take (.write loan offset bytes) = p := by
  simp only [take, write, h]

/-- A write changes bytes of the blocks and nothing else. -/
theorem take_write_eq (p : Pool) (loan offset : Nat) (bytes : Bytes) :
    p.take (.write loan offset bytes)
      = { p with blocks := (p.take (.write loan offset bytes)).blocks } := by
  cases hloan : p.loan? loan with
  | none => rw [take_write_of_returned hloan]
  | some s =>
    rw [take_write_of_loan? hloan]
    split <;> rfl

/-- A write within a block leaves its length as it was. -/
theorem length_overwrite {block : Bytes} (h : offset + bytes.length ≤ block.length) :
    (overwrite block offset bytes).length = block.length := by
  simp only [overwrite, List.length_append, List.length_take, List.length_drop]
  omega

/-- The bytes written lie in a slice, and so within its block. -/
theorem blockLengths_put {s : Slice} (hs : s.Within p.blockLengths)
    (hfits : offset + bytes.length ≤ s.length) :
    (p.put s offset bytes).blockLengths = p.blockLengths := by
  obtain ⟨block, hblock, hget, hend⟩ := exists_block hs
  have hsame : (overwrite block (s.start + offset) bytes).length = block.length :=
    length_overwrite (by omega)
  obtain ⟨before, after, hblocks, hset, -⟩ := Places.exists_split_of_getElem? hblock
  rw [blockLengths, put, hget, hset, blockLengths, hblocks, List.map_append, List.map_append,
    List.map_cons, List.map_cons, hsame]

theorem Sound.take (h : p.Sound) (step : PoolStep) : (p.take step).Sound := by
  cases step with
  | allocate => exact h.allocate
  | release loan => exact h.release loan
  | write loan offset bytes =>
    cases hloan : p.loan? loan with
    | none =>
      rw [take_write_of_returned hloan]
      exact h
    | some s =>
      rw [take_write_of_loan? hloan]
      split
      · next hfits =>
        have hblocks := blockLengths_put (h.within s (mem_slices_of_loan? hloan)) hfits
        exact h.of_perm (.refl _) hblocks rfl rfl rfl
      · exact h

theorem Sound.run (h : p.Sound) (steps : List PoolStep) : (p.run steps).Sound := by
  induction steps generalizing p with
  | nil => exact h
  | cons step steps ih => exact ih (h.take step)

/-! ### Sizes, regions and loans -/

theorem sizes_allocate (p : Pool) :
    p.allocate.bufferSize = p.bufferSize ∧ p.allocate.perRegion = p.perRegion := by
  rw [allocate, lend, ensureFree]
  split <;> split <;> exact ⟨rfl, rfl⟩

theorem sizes_release (p : Pool) (loan : Nat) :
    (p.release loan).2.bufferSize = p.bufferSize ∧
      (p.release loan).2.perRegion = p.perRegion := by
  rw [release]
  split <;> exact ⟨rfl, rfl⟩

/-- Buffers and regions keep the sizes that the pool was made with. -/
theorem sizes_take (p : Pool) (step : PoolStep) :
    (p.take step).bufferSize = p.bufferSize ∧ (p.take step).perRegion = p.perRegion := by
  cases step with
  | allocate => exact p.sizes_allocate
  | release loan => exact p.sizes_release loan
  | write loan offset bytes =>
    rw [take_write_eq]
    exact ⟨rfl, rfl⟩

theorem sizes_run (p : Pool) (steps : List PoolStep) :
    (p.run steps).bufferSize = p.bufferSize ∧ (p.run steps).perRegion = p.perRegion := by
  induction steps generalizing p with
  | nil => exact ⟨rfl, rfl⟩
  | cons step steps ih =>
    obtain ⟨hsize, hper⟩ := ih (p.take step)
    obtain ⟨hsize', hper'⟩ := p.sizes_take step
    exact ⟨hsize.trans hsize', hper.trans hper'⟩

theorem regions_lend (p : Pool) : p.lend.regions = p.regions := by
  rw [lend]
  split <;> rfl

/-- Lending adds a loan, wherever its buffer comes from. -/
theorem length_onLoan_lend (p : Pool) : p.lend.onLoan.length = p.onLoan.length + 1 := by
  rw [lend]
  split <;> simp [onLoan]

theorem onLoan_ensureFree (p : Pool) : p.ensureFree.onLoan = p.onLoan := by
  rw [ensureFree]
  split <;> rfl

/-- A region is added when nothing is free. -/
theorem regions_allocate (p : Pool) :
    p.allocate.regions = if p.free = [] then p.regions + 1 else p.regions := by
  rw [allocate, regions_lend, ensureFree]
  cases p.free <;> rfl

/-- With nothing free, every buffer of every region is on loan. -/
theorem Sound.free_eq_nil_iff (h : p.Sound) :
    p.free = [] ↔ p.onLoan.length = p.regions * p.perRegion := by
  have hcount := h.count
  rw [length_slices, available] at hcount
  rw [← List.length_eq_zero_iff]
  omega

/-! ### Accounts of the loans -/

/-- Which loans of a pool are out. -/
def out (p : Pool) : List Bool := p.loans.map Option.isSome

/-- There are as many slices on loan as loans out. -/
theorem count_out (p : Pool) : p.out.count true = p.onLoan.length := by
  rw [out, onLoan]
  generalize p.loans = loans
  induction loans with
  | nil => rfl
  | cons loan loans ih => cases loan <;> simp [ih]

theorem out_ensureFree (p : Pool) : p.ensureFree.out = p.out := by
  rw [ensureFree]
  split <;> rfl

theorem out_lend (p : Pool) : p.lend.out = p.out ++ [true] := by
  rw [lend]
  split <;> simp [out]

/-- A loan that was returned is not out. -/
theorem out_set_of_returned {loan : Nat} (h : p.loan? loan = none) :
    p.out.set loan false = p.out := by
  refine List.ext_getElem? fun i => ?_
  rw [List.getElem?_set]
  split
  · next hi =>
    subst hi
    rw [out, List.getElem?_map, List.length_map]
    rw [loan?] at h
    cases hget : p.loans[loan]? with
    | none => rw [if_neg (by simpa using hget), Option.map_none]
    | some back =>
      rw [hget, Option.join_some] at h
      rw [if_pos (List.getElem?_eq_some_iff.1 hget).1, Option.map_some, h, Option.isSome_none]
  · rfl

/-- A step changes the loans that are out as the ledger says. -/
theorem out_take (p : Pool) (step : PoolStep) : (p.take step).out = step.tally p.out := by
  cases step with
  | allocate =>
    show p.ensureFree.lend.out = p.out ++ [true]
    rw [out_lend, out_ensureFree]
  | write loan offset bytes =>
    rw [take_write_eq]
    rfl
  | release loan =>
    show (p.release loan).2.out = p.out.set loan false
    cases hloan : p.loan? loan with
    | none => rw [release_of_returned hloan, out_set_of_returned hloan]
    | some s =>
      rw [release_of_loan? hloan, out, List.map_set]
      rfl

theorem out_run (p : Pool) (steps : List PoolStep) :
    (p.run steps).out = steps.foldl PoolStep.tally p.out := by
  induction steps generalizing p with
  | nil => rfl
  | cons step steps ih =>
    rw [List.foldl_cons, ← out_take]
    exact ih (p.take step)

/-- The loans of a new pool that are out are those of the ledger. -/
theorem out_run_start (bufferSize perRegion : Nat) (direct : Bool) (steps : List PoolStep) :
    ((start bufferSize perRegion direct).run steps).out = PoolStep.ledger steps :=
  out_run _ steps

/-! ### Regions and the peak -/

/-- The regions have room for a number of loans, and one region less would not have. -/
structure Covers (peak : Nat) (p : Pool) : Prop where
  onLoan_le : p.onLoan.length ≤ peak
  enough : peak ≤ p.regions * p.perRegion
  tight : p.regions * p.perRegion < peak + p.perRegion

variable {peak : Nat}

/-- Where no loan is added, the regions cover what they did. -/
theorem Covers.of_le (h : p.Covers peak) (hloans : q.onLoan.length ≤ p.onLoan.length)
    (hregions : q.regions = p.regions) (hper : q.perRegion = p.perRegion) :
    q.Covers (max peak q.onLoan.length) := by
  have hle : q.onLoan.length ≤ peak := Nat.le_trans hloans h.onLoan_le
  rw [Nat.max_eq_left hle]
  refine ⟨hle, ?_, ?_⟩
  · rw [hregions, hper]
    exact h.enough
  · rw [hregions, hper]
    exact h.tight

/-- A loan more is covered: with a free buffer by the regions there are, and with none, when all
    buffers are on loan, by the region that is added. -/
theorem Covers.allocate (h : p.Covers peak) (hp : p.Sound) :
    p.allocate.Covers (max peak p.allocate.onLoan.length) := by
  have hloans : p.allocate.onLoan.length = p.onLoan.length + 1 := by
    rw [Pool.allocate, length_onLoan_lend, onLoan_ensureFree]
  have hper : p.allocate.perRegion = p.perRegion := (p.sizes_allocate).2
  have hregions := p.regions_allocate
  have hpos := hp.perRegion_pos
  have hcount := hp.count
  have hle := h.onLoan_le
  have henough := h.enough
  have htight := h.tight
  rw [length_slices] at hcount
  rw [hloans]
  by_cases hfree : p.free = []
  · have hall := hp.free_eq_nil_iff.1 hfree
    rw [if_pos hfree] at hregions
    have hmore : p.allocate.regions * p.allocate.perRegion
        = p.regions * p.perRegion + p.perRegion := by
      rw [hregions, hper, Nat.succ_mul]
    refine ⟨by omega, ?_, ?_⟩
    · rw [hmore]
      omega
    · rw [hmore, hper]
      omega
  · have hsome : 0 < p.available := List.length_pos_iff.2 hfree
    rw [if_neg hfree] at hregions
    refine ⟨by omega, ?_, ?_⟩
    · rw [hregions, hper]
      omega
    · rw [hregions, hper]
      omega

/-- Taking a loan back adds none. -/
theorem length_onLoan_release_le (p : Pool) (loan : Nat) :
    (p.release loan).2.onLoan.length ≤ p.onLoan.length := by
  have hsame := (p.perm_slices_release loan).length_eq
  rw [length_slices, length_slices] at hsame
  have hfree : p.available ≤ (p.release loan).2.available := by
    rw [release]
    split
    · exact Nat.le_succ _
    · exact Nat.le_refl _
  omega

theorem Covers.take (h : p.Covers peak) (hp : p.Sound) (step : PoolStep) :
    (p.take step).Covers (max peak (p.take step).onLoan.length) := by
  cases step with
  | allocate => exact h.allocate hp
  | release loan =>
    have hregions : (p.release loan).2.regions = p.regions := by
      rw [release]
      split <;> rfl
    exact h.of_le (p.length_onLoan_release_le loan) hregions (p.sizes_release loan).2
  | write loan offset bytes =>
    have hloans : (p.take (.write loan offset bytes)).onLoan = p.onLoan := by
      rw [take_write_eq]
      rfl
    have hregions : (p.take (.write loan offset bytes)).regions = p.regions := by
      rw [take_write_eq]
    exact h.of_le (Nat.le_of_eq (congrArg List.length hloans)) hregions (p.sizes_take _).2

/-- The regions cover the most loans out while steps are taken. -/
theorem Covers.run (h : p.Covers peak) (hp : p.Sound) (steps : List PoolStep) :
    (p.run steps).Covers (max peak (PoolStep.mostOut p.out steps)) := by
  induction steps generalizing p peak with
  | nil =>
    have hpeak : max peak (PoolStep.mostOut p.out []) = peak := by
      rw [PoolStep.mostOut, count_out]
      exact Nat.max_eq_left h.onLoan_le
    rw [hpeak]
    exact h
  | cons step steps ih =>
    have hrest := ih (h.take hp step) (hp.take step)
    -- The loans before the step are covered already, those after it are part of the later peak.
    have hpeak : max peak (PoolStep.mostOut p.out (step :: steps))
        = max (max peak (p.take step).onLoan.length)
            (PoolStep.mostOut (p.take step).out steps) := by
      have hbefore := h.onLoan_le
      have hafter := PoolStep.count_le_mostOut (p.take step).out steps
      rw [count_out] at hafter
      rw [PoolStep.mostOut, count_out, ← out_take]
      omega
    rw [hpeak]
    exact hrest

/-- A number that lies within one region of what the regions hold is how many they are. -/
theorem Covers.regions_eq (h : p.Covers peak) (hp : p.Sound) :
    p.regions = (peak + p.perRegion - 1) / p.perRegion := by
  have hpos := hp.perRegion_pos
  have henough := h.enough
  have htight := h.tight
  refine (Nat.div_eq_of_lt_le ?_ ?_).symm
  · omega
  · rw [Nat.succ_mul]
    omega

/-! ### After any steps -/

/-- A pool of buffers of some size in regions of some number, after loans of which these are out and
    no more than `peak` were at a time. -/
structure Conserved (size perRegion : Nat) (out : List Bool) (peak : Nat) (p : Pool) : Prop where
  /-- The slices on loan are those of the loans that are out. -/
  loans : p.loans.map Option.isSome = out
  onLoan : p.onLoan.length = out.count true
  /-- Every buffer, free or on loan, has the bytes it should have, and so has the one lent next. -/
  contents : ∀ s ∈ p.slices, (p.contents s).length = size
  lent : p.allocate.length? p.loans.length = some size
  /-- No buffer is on loan twice, or on loan and free; no two buffers share a byte. -/
  nodup : p.slices.Nodup
  apart : p.slices.Pairwise Slice.Apart
  /-- Every buffer of every region is free or on loan. -/
  total : p.available + p.onLoan.length = p.regions * perRegion
  /-- The regions are as many as the loans at their peak called for. -/
  regions : p.regions = (peak + perRegion - 1) / perRegion
  /-- A region is added only when every buffer is on loan, and then there is one to lend: a buffer
      that belongs to no region is never made. -/
  growth : p.allocate.regions
    = if p.onLoan.length = p.regions * perRegion then p.regions + 1 else p.regions
  regional : p.ensureFree.free ≠ []

/-- A slice that lies in its block has as many bytes as it is long. -/
theorem length_contents {s : Slice} (h : s.Within p.blockLengths) :
    (p.contents s).length = s.length := by
  obtain ⟨block, -, hget, hend⟩ := exists_block h
  rw [contents, hget, List.length_take, List.length_drop]
  omega

/-- The next loan is the slice on top of the free list, once there is one. -/
theorem loan?_allocate {s : Slice} {rest : List Slice} (hfree : p.ensureFree.free = s :: rest) :
    p.allocate.loan? p.loans.length = some s := by
  have hloans : p.ensureFree.loans = p.loans := by
    rw [ensureFree]
    split <;> rfl
  rw [loan?_eq_some_iff]
  simp [allocate, lend, hfree, hloans]

theorem exists_loan?_allocate (h : p.Sound) :
    ∃ s ∈ p.allocate.slices, p.allocate.loan? p.loans.length = some s := by
  obtain ⟨s, rest, hfree⟩ := List.exists_cons_of_ne_nil h.free_ensureFree
  exact ⟨s, mem_slices_of_loan? (loan?_allocate hfree), loan?_allocate hfree⟩

/-- A sound pool whose regions cover the peak is conserved. -/
theorem Sound.conserved (h : p.Sound) (hpeak : p.Covers peak) :
    Conserved p.bufferSize p.perRegion p.out peak p where
  loans := rfl
  onLoan := p.count_out.symm
  contents s hs := (length_contents (h.within s hs)).trans (h.length s hs)
  lent := by
    obtain ⟨s, hs, hloan⟩ := exists_loan?_allocate h
    rw [length?, hloan, Option.map_some, h.allocate.length s hs, (p.sizes_allocate).1]
  nodup := h.nodup
  apart := h.apart
  total := by rw [← length_slices, h.count]
  regions := hpeak.regions_eq h
  growth := by
    rw [regions_allocate]
    simp only [h.free_eq_nil_iff]
  regional := h.free_ensureFree

/-- However buffers are lent, written and returned, in either kind of pool, the pool is conserved,
    by the accounts of what happened. -/
theorem run_conserves (bufferSize perRegion : Nat) (direct : Bool) (steps : List PoolStep) :
    Conserved (max bufferSize 1) (max perRegion 1) (PoolStep.ledger steps)
      (PoolStep.mostOut [] steps) ((start bufferSize perRegion direct).run steps) := by
  have hstart := sound_start bufferSize perRegion direct
  have hnone : (start bufferSize perRegion direct).Covers 0 := by
    refine ⟨Nat.le_refl 0, Nat.zero_le _, ?_⟩
    rw [Nat.zero_add]
    show 0 * _ < (start bufferSize perRegion direct).perRegion
    rw [Nat.zero_mul]
    exact hstart.perRegion_pos
  have hcovers := hnone.run hstart steps
  rw [Nat.zero_max] at hcovers
  obtain ⟨hsize, hper⟩ := (start bufferSize perRegion direct).sizes_run steps
  have hconserved := (hstart.run steps).conserved hcovers
  rw [hsize, hper, out_run_start] at hconserved
  exact hconserved

end Pool

end Gatehouse.Buffer
