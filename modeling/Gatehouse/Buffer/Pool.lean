import Gatehouse.Buffer.Profile
import Gatehouse.Text.Utf8

namespace Gatehouse.Buffer

/-!
# Buffer pools

A pool lends buffers of one size and adds a region of several buffers whenever all of them are on
loan. A direct pool carves the buffers of a region out of one block of memory, a heap pool gives
each buffer a block of its own. Buffers that come back keep their bytes and are lent again, the
last one first.

* `Slice` — a part of a block: where the bytes of a buffer live;
* `Pool` — blocks, free slices and loans; loans are numbered from 0 in the order they were made;
* `Pool.allocate`, `Pool.release`, `Pool.write`, `Pool.read` — the operations;
* `Pool.available`, `Pool.onLoan` — the counts.
-/

/-- A part of a block of memory. -/
structure Slice where
  block : Nat
  start : Nat
  length : Nat
  deriving DecidableEq, Repr, Inhabited

/-- A pool of buffers. The head of `free` is lent next; `loans` holds the slice of every loan made
    so far, `none` once it is returned. -/
structure Pool where
  bufferSize : Nat
  perRegion : Nat
  direct : Bool
  blocks : List Bytes
  regions : Nat
  free : List Slice
  loans : List (Option Slice)
  deriving Repr, Inhabited

/-- A block of zeros. -/
def zeros (n : Nat) : Bytes := List.replicate n 0

namespace Pool

/-- A pool without regions; sizes are at least one. -/
def start (bufferSize perRegion : Nat) (direct : Bool) : Pool :=
  ⟨max bufferSize 1, max perRegion 1, direct, [], 0, [], []⟩

/-- A pool sized by a profile. -/
def ofProfile (p : Profile) : Pool := start p.bufferSize p.perRegion p.direct

/-- The slices of a new region, in the order in which they are put on the free list. -/
def regionSlices (p : Pool) : List Slice :=
  (List.range p.perRegion).map fun i =>
    if p.direct then ⟨p.blocks.length, i * p.bufferSize, p.bufferSize⟩
    else ⟨p.blocks.length + i, 0, p.bufferSize⟩

/-- The blocks of a new region. -/
def regionBlocks (p : Pool) : List Bytes :=
  if p.direct then [zeros (p.bufferSize * p.perRegion)]
  else List.replicate p.perRegion (zeros p.bufferSize)

/-- Adds a region. -/
def grow (p : Pool) : Pool :=
  { p with
    blocks := p.blocks ++ p.regionBlocks
    regions := p.regions + 1
    free := p.regionSlices.reverse ++ p.free }

/-- Adds a region if nothing is free. -/
def ensureFree (p : Pool) : Pool := if p.free.isEmpty then p.grow else p

/-- Lends the slice on top of the free list. With nothing free a lone buffer is made, which no
    region accounts for. -/
def lend (p : Pool) : Pool :=
  match p.free with
  | s :: rest => { p with free := rest, loans := p.loans ++ [some s] }
  | [] =>
    { p with
      blocks := p.blocks ++ [zeros p.bufferSize]
      loans := p.loans ++ [some ⟨p.blocks.length, 0, p.bufferSize⟩] }

/-- Lends a buffer, growing first if none is free. The new loan has the next number. -/
def allocate (p : Pool) : Pool := p.ensureFree.lend

/-- The slice of a loan that was not returned yet. -/
def loan? (p : Pool) (i : Nat) : Option Slice := (p.loans[i]?).join

/-- The length of a lent buffer. -/
def length? (p : Pool) (i : Nat) : Option Nat := (p.loan? i).map (·.length)

/-- Takes a loan back; the flag tells whether there was one. -/
def release (p : Pool) (i : Nat) : Bool × Pool :=
  match p.loan? i with
  | some s => (true, { p with free := s :: p.free, loans := p.loans.set i none })
  | none => (false, p)

/-- Takes every loan back, the first one first. -/
def releaseAll (p : Pool) : Pool :=
  (List.range p.loans.length).foldl (fun p i => (p.release i).2) p

/-- The bytes of a slice. -/
def contents (p : Pool) (s : Slice) : Bytes :=
  ((p.blocks.getD s.block []).drop s.start).take s.length

/-- Writes into a block of memory. -/
def overwrite (block : Bytes) (at_ : Nat) (bytes : Bytes) : Bytes :=
  block.take at_ ++ bytes ++ block.drop (at_ + bytes.length)

/-- What came of an access to a lent buffer. -/
inductive Access (α : Type) where
  | done (value : α)
  | returned
  | outOfBounds
  deriving Repr

/-- Writes bytes at an offset of a lent buffer. -/
def write (p : Pool) (i offset : Nat) (bytes : Bytes) : Access Pool :=
  match p.loan? i with
  | none => .returned
  | some s =>
    if offset + bytes.length ≤ s.length then
      let block := overwrite (p.blocks.getD s.block []) (s.start + offset) bytes
      .done { p with blocks := p.blocks.set s.block block }
    else .outOfBounds

/-- Reads bytes at an offset of a lent buffer. -/
def read (p : Pool) (i offset n : Nat) : Access Bytes :=
  match p.loan? i with
  | none => .returned
  | some s =>
    if offset + n ≤ s.length then .done (((p.contents s).drop offset).take n) else .outOfBounds

/-- Buffers ready to be lent. -/
def available (p : Pool) : Nat := p.free.length

/-- Slices on loan. -/
def onLoan (p : Pool) : List Slice := p.loans.filterMap id

@[simp] theorem available_start (s n : Nat) (d : Bool) : (start s n d).available = 0 := rfl

@[simp] theorem onLoan_start (s n : Nat) (d : Bool) : (start s n d).onLoan = [] := rfl

@[simp] theorem length_regionSlices (p : Pool) : p.regionSlices.length = p.perRegion := by
  simp [regionSlices]

@[simp] theorem regions_grow (p : Pool) : p.grow.regions = p.regions + 1 := rfl

@[simp] theorem available_grow (p : Pool) : p.grow.available = p.perRegion + p.available := by
  simp [grow, available]

end Pool

end Gatehouse.Buffer
