import Gatehouse.Proofs.Buffer.Conservation
import Mathlib.Data.List.Pairwise

namespace Gatehouse.Buffer

/-!
# What the buffers of a pool hold

The bytes of a buffer are those of its slice. A write changes them if it goes through the loan of
the slice, and since slices share no byte it changes those of no other; nothing else that happens to
a pool changes bytes at all.

* `Pool.getElem?_overwrite`, `Pool.getElem?_contents` — single bytes of a block and of a slice;
* `Pool.Sound.contents_write`, `Pool.Sound.contents_write_of_ne` — a write, seen from the slice it
  goes to and from any other;
* `Pool.contents_grow`, `Pool.contents_regionSlices` — a new region holds zeros, and the older
  slices what they held;
* `Pool.Sound.contents_take` — any step, seen from a slice that it does not write to.
-/

namespace Pool

variable {p q : Pool} {s t : Slice} {loan offset : Nat} {bytes : Bytes}

/-! ### Writes within a block -/

/-- A byte of a block that was written into. -/
theorem getElem?_overwrite {block : Bytes} (h : offset + bytes.length ≤ block.length) (i : Nat) :
    (overwrite block offset bytes)[i]?
      = if offset ≤ i ∧ i < offset + bytes.length then bytes[i - offset]? else block[i]? := by
  have hfront : (block.take offset).length = offset := by
    rw [List.length_take]
    omega
  rw [overwrite, List.append_assoc]
  by_cases hbefore : i < offset
  · rw [List.getElem?_append_left (by omega), List.getElem?_take_of_lt hbefore, if_neg (by omega)]
  · rw [List.getElem?_append_right (by omega), hfront]
    by_cases hinside : i < offset + bytes.length
    · rw [List.getElem?_append_left (by omega), if_pos ⟨by omega, hinside⟩]
    · rw [List.getElem?_append_right (by omega), List.getElem?_drop, if_neg (by omega)]
      congr 1
      omega

/-- A byte of a slice is a byte of its block. -/
theorem getElem?_contents (p : Pool) (s : Slice) (i : Nat) :
    (p.contents s)[i]?
      = if i < s.length then (p.blocks.getD s.block [])[s.start + i]? else none := by
  rw [contents, List.getElem?_take, List.getElem?_drop]

/-- A slice of the same block as before holds what it held. -/
theorem contents_congr (h : q.blocks.getD s.block [] = p.blocks.getD s.block []) :
    q.contents s = p.contents s := by
  rw [contents, contents, h]

/-! ### Writes through a loan -/

/-- The bytes of a slice are overwritten where they are written to. -/
theorem contents_put_self (hs : s.Within p.blockLengths)
    (hfits : offset + bytes.length ≤ s.length) :
    (p.put s offset bytes).contents s = overwrite (p.contents s) offset bytes := by
  obtain ⟨block, hblock, hget, hend⟩ := exists_block hs
  have hlt : s.block < p.blocks.length := (List.getElem?_eq_some_iff.1 hblock).1
  have hlength := length_contents hs
  have hput : (p.put s offset bytes).blocks.getD s.block []
      = overwrite block (s.start + offset) bytes := by
    rw [List.getD_eq_getElem?_getD, put, List.getElem?_set_self hlt, Option.getD_some, hget]
  refine List.ext_getElem? fun i => ?_
  rw [getElem?_contents, hput, getElem?_overwrite (by omega), getElem?_overwrite (by omega),
    getElem?_contents, hget]
  -- A place within the slice is written to or not, both in the slice and in the block.
  by_cases hwritten : offset ≤ i ∧ i < offset + bytes.length
  · rw [if_pos (by omega), if_pos (by omega), if_pos hwritten]
    congr 1
    omega
  · have hout : ¬ (s.start + offset ≤ s.start + i ∧
        s.start + i < s.start + offset + bytes.length) := by
      omega
    rw [if_neg hout, if_neg hwritten]

/-- The bytes of a slice that shares none with the one written to stay. -/
theorem contents_put_of_apart (hs : s.Within p.blockLengths) (hapart : s.Apart t)
    (hfits : offset + bytes.length ≤ s.length) :
    (p.put s offset bytes).contents t = p.contents t := by
  obtain ⟨block, hblock, hget, hend⟩ := exists_block hs
  have hlt : s.block < p.blocks.length := (List.getElem?_eq_some_iff.1 hblock).1
  by_cases hsame : s.block = t.block
  · have hput : (p.put s offset bytes).blocks.getD t.block []
        = overwrite block (s.start + offset) bytes := by
      rw [List.getD_eq_getElem?_getD, put, ← hsame, List.getElem?_set_self hlt, Option.getD_some,
        hget]
    refine List.ext_getElem? fun i => ?_
    rw [getElem?_contents, getElem?_contents, hput, ← hsame, hget, getElem?_overwrite (by omega)]
    by_cases hi : i < t.length
    · -- The place lies in the other slice, and so not where bytes are written.
      have hout : ¬ (s.start + offset ≤ t.start + i ∧
          t.start + i < s.start + offset + bytes.length) := by
        rcases hapart with hblocks | hbefore | hafter
        · exact absurd hsame hblocks
        · omega
        · omega
      rw [if_neg hout]
    · rw [if_neg hi, if_neg hi]
  · refine contents_congr ?_
    rw [List.getD_eq_getElem?_getD, List.getD_eq_getElem?_getD, put, List.getElem?_set_ne hsame]

/-! ### New regions -/

/-- A new region leaves the older slices what they held. -/
theorem contents_grow (hs : s.Within p.blockLengths) : p.grow.contents s = p.contents s := by
  obtain ⟨block, hblock, -, -⟩ := exists_block hs
  have hlt : s.block < p.blocks.length := (List.getElem?_eq_some_iff.1 hblock).1
  refine contents_congr ?_
  rw [List.getD_eq_getElem?_getD, List.getD_eq_getElem?_getD, grow,
    List.getElem?_append_left hlt]

/-- The slices of a new region hold zeros. -/
theorem contents_regionSlices (hs : s ∈ p.regionSlices) :
    p.grow.contents s = zeros p.bufferSize := by
  have hlength := length_contents (within_of_mem_regionSlices hs)
  rw [length_of_mem_regionSlices hs] at hlength
  rw [zeros, List.eq_replicate_iff]
  refine ⟨hlength, fun b hb => ?_⟩
  -- Every byte of the region is a byte of one of its blocks.
  have hnew : ∀ block ∈ p.regionBlocks, ∀ b ∈ block, b = 0 := by
    intro block hblock b hb
    rw [regionBlocks] at hblock
    split at hblock
    · rw [List.mem_singleton.1 hblock] at hb
      exact List.eq_of_mem_replicate hb
    · rw [List.eq_of_mem_replicate hblock] at hb
      exact List.eq_of_mem_replicate hb
  obtain ⟨block, hblock, hget, -⟩ := exists_block (within_of_mem_regionSlices hs)
  have hregion : block ∈ p.regionBlocks := by
    rw [grow, List.getElem?_append_right (block_le_of_mem_regionSlices hs)] at hblock
    exact List.mem_of_getElem? hblock
  rw [contents, hget] at hb
  exact hnew block hregion b (List.mem_of_mem_drop (List.mem_of_mem_take hb))

/-! ### One step -/

/-- Two slices of a pool are the same or share no byte. -/
theorem Sound.apart_of_ne (h : p.Sound) (hs : s ∈ p.slices) (ht : t ∈ p.slices) (hne : s ≠ t) :
    s.Apart t := by
  have : Std.Symm Slice.Apart := ⟨fun _ _ hapart => hapart.symm⟩
  exact h.apart.forall hs ht hne

/-- A write goes to the slice of its loan. -/
theorem Sound.contents_write (h : p.Sound) (hloan : p.loan? loan = some s) :
    (p.take (.write loan offset bytes)).contents s
      = if offset + bytes.length ≤ s.length then overwrite (p.contents s) offset bytes
        else p.contents s := by
  rw [take_write_of_loan? hloan]
  split
  · next hfits => exact contents_put_self (h.within s (mem_slices_of_loan? hloan)) hfits
  · rfl

/-- A write goes to no slice but that of its loan. -/
theorem Sound.contents_write_of_ne (h : p.Sound) (ht : t ∈ p.slices)
    (hother : p.loan? loan ≠ some t) :
    (p.take (.write loan offset bytes)).contents t = p.contents t := by
  cases hloan : p.loan? loan with
  | none => rw [take_write_of_returned hloan]
  | some s =>
    have hs := mem_slices_of_loan? hloan
    have hne : s ≠ t := fun heq => hother (heq ▸ hloan)
    rw [take_write_of_loan? hloan]
    split
    · next hfits => exact contents_put_of_apart (h.within s hs) (h.apart_of_ne hs ht hne) hfits
    · rfl

theorem contents_ensureFree (hs : s.Within p.blockLengths) :
    p.ensureFree.contents s = p.contents s := by
  rw [ensureFree]
  split
  · exact contents_grow hs
  · rfl

/-- Lending a free slice writes nothing. -/
theorem contents_lend (hfree : p.free ≠ []) : p.lend.contents s = p.contents s := by
  obtain ⟨t, rest, hp⟩ := List.exists_cons_of_ne_nil hfree
  refine contents_congr ?_
  rw [lend_of_free hp]

theorem contents_release (p : Pool) (loan : Nat) (s : Slice) :
    (p.release loan).2.contents s = p.contents s := by
  cases hloan : p.loan? loan with
  | none => rw [release_of_returned hloan]
  | some t =>
    refine contents_congr ?_
    rw [release_of_loan? hloan]

/-- A step changes the bytes of a slice only if it is a write through the loan of the slice. -/
theorem Sound.contents_take (h : p.Sound) (step : PoolStep) (hs : s ∈ p.slices)
    (hother : ∀ loan offset bytes, step = .write loan offset bytes → p.loan? loan ≠ some s) :
    (p.take step).contents s = p.contents s := by
  cases step with
  | allocate =>
    show p.ensureFree.lend.contents s = p.contents s
    rw [contents_lend h.free_ensureFree, contents_ensureFree (h.within s hs)]
  | write loan offset bytes => exact h.contents_write_of_ne hs (hother loan offset bytes rfl)
  | release loan => exact p.contents_release loan s

end Pool

end Gatehouse.Buffer
