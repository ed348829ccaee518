import Gatehouse.Proofs.Buffer.Contents

namespace Gatehouse.Buffer

/-!
# Pools as shelves of separate buffers

Whether the buffers of a pool are carved out of blocks or have a block each, a pool does what a
shelf of buffers does that have nothing to do with each other: each is a list of bytes of its own,
and the free ones are stacked.

* `Shelf`, `Shelf.take` — the shelf and what happens to it;
* `PoolCall`, `PoolReply` — what a holder of a pool can ask, and all that shows of the pool then;
* `Pool.shelf` — the buffers of a pool apart from where they live;
* `Pool.Sound.shelf_take`, `Pool.Sound.reply_shelf` — a step and a call of the pool are those of its
  shelf; `Pool.Sound.replies_shelf` — so are any calls.
-/

/-- Buffers of some size, each with its bytes: the free ones, of which the first is lent next, and
    those on loan, under the numbers of their loans. -/
structure Shelf where
  bufferSize : Nat
  perRegion : Nat
  regions : Nat
  free : List Bytes
  loans : List (Option Bytes)

namespace Shelf

/-- A shelf without buffers; sizes are at least one. -/
def start (bufferSize perRegion : Nat) : Shelf :=
  ⟨max bufferSize 1, max perRegion 1, 0, [], []⟩

/-- Puts as many buffers of zeros on an empty shelf as make up a region. -/
def stock (s : Shelf) : Shelf :=
  if s.free.isEmpty then
    { s with regions := s.regions + 1, free := List.replicate s.perRegion (zeros s.bufferSize) }
  else s

/-- Lends the buffer on top. -/
def lend (s : Shelf) : Shelf :=
  match s.free with
  | [] => s
  | buffer :: rest => { s with free := rest, loans := s.loans ++ [some buffer] }

/-- The buffer of a loan that was not returned yet. -/
def loan? (s : Shelf) (loan : Nat) : Option Bytes := (s.loans[loan]?).join

/-- Writes into the buffer of a loan. -/
def write (s : Shelf) (loan offset : Nat) (bytes : Bytes) : Pool.Access Shelf :=
  match s.loan? loan with
  | none => .returned
  | some buffer =>
    if offset + bytes.length ≤ buffer.length then
      let written := Pool.overwrite buffer offset bytes
      .done { s with loans := s.loans.set loan (some written) }
    else .outOfBounds

/-- Reads from the buffer of a loan. -/
def read (s : Shelf) (loan offset n : Nat) : Pool.Access Bytes :=
  match s.loan? loan with
  | none => .returned
  | some buffer =>
    if offset + n ≤ buffer.length then .done ((buffer.drop offset).take n) else .outOfBounds

/-- Puts the buffer of a loan back on top, as it is. -/
def release (s : Shelf) (loan : Nat) : Bool × Shelf :=
  match s.loan? loan with
  | none => (false, s)
  | some buffer => (true, { s with free := buffer :: s.free, loans := s.loans.set loan none })

/-- One step. -/
def take (s : Shelf) : PoolStep → Shelf
  | .allocate => s.stock.lend
  | .write loan offset bytes =>
    match s.write loan offset bytes with
    | .done t => t
    | .returned | .outOfBounds => s
  | .release loan => (s.release loan).2

end Shelf

/-! ### What shows of a pool -/

/-- A call of somebody who holds a pool. -/
inductive PoolCall where
  | act (step : PoolStep)
  | read (loan offset n : Nat)

/-- What a call answers: the length of the buffer lent, what came of a write or a read, or whether
    there was a loan to return. -/
inductive PoolAnswer where
  | lent (length : Option Nat)
  | written (access : Pool.Access Unit)
  | returned (held : Bool)
  | found (access : Pool.Access Bytes)

/-- An answer with the counts of the pool after the call. -/
structure PoolReply where
  answer : PoolAnswer
  regions : Nat
  available : Nat

/-- What came of an access, whatever its value. -/
def Pool.Access.void {α : Type} : Pool.Access α → Pool.Access Unit
  | .done _ => .done ()
  | .returned => .returned
  | .outOfBounds => .outOfBounds

namespace Pool

/-- The pool after a call. -/
def after (p : Pool) : PoolCall → Pool
  | .act step => p.take step
  | .read _ _ _ => p

/-- What a pool answers. -/
def answer (p : Pool) : PoolCall → PoolAnswer
  | .act .allocate => .lent (p.allocate.length? p.loans.length)
  | .act (.write loan offset bytes) => .written (p.write loan offset bytes).void
  | .act (.release loan) => .returned (p.release loan).1
  | .read loan offset n => .found (p.read loan offset n)

def reply (p : Pool) (call : PoolCall) : PoolReply :=
  ⟨p.answer call, (p.after call).regions, (p.after call).available⟩

/-- The replies to calls one after another. -/
def replies (p : Pool) : List PoolCall → List PoolReply
  | [] => []
  | call :: calls => p.reply call :: (p.after call).replies calls

end Pool

namespace Shelf

/-- The shelf after a call. -/
def after (s : Shelf) : PoolCall → Shelf
  | .act step => s.take step
  | .read _ _ _ => s

/-- What a shelf answers. -/
def answer (s : Shelf) : PoolCall → PoolAnswer
  | .act .allocate => .lent ((s.take .allocate).loan? s.loans.length |>.map List.length)
  | .act (.write loan offset bytes) => .written (s.write loan offset bytes).void
  | .act (.release loan) => .returned (s.release loan).1
  | .read loan offset n => .found (s.read loan offset n)

def reply (s : Shelf) (call : PoolCall) : PoolReply :=
  ⟨s.answer call, (s.after call).regions, (s.after call).free.length⟩

/-- The replies to calls one after another. -/
def replies (s : Shelf) : List PoolCall → List PoolReply
  | [] => []
  | call :: calls => s.reply call :: (s.after call).replies calls

end Shelf

/-! ### The shelf of a pool -/

namespace Pool

/-- The buffers of a pool, wherever they live. -/
def shelf (p : Pool) : Shelf :=
  ⟨p.bufferSize, p.perRegion, p.regions, p.free.map p.contents, p.loans.map (Option.map p.contents)⟩

theorem shelf_start (bufferSize perRegion : Nat) (direct : Bool) :
    (start bufferSize perRegion direct).shelf = .start bufferSize perRegion := rfl

variable {p : Pool} {s : Slice} {loan offset : Nat} {bytes : Bytes}

theorem loan?_shelf (p : Pool) (loan : Nat) :
    p.shelf.loan? loan = (p.loan? loan).map p.contents := by
  rw [Shelf.loan?, shelf, List.getElem?_map, Pool.loan?]
  rcases p.loans[loan]? with _ | _ | s <;> rfl

/-- Slices that hold what they held look the same on the shelf. -/
theorem map_contents_congr {q : Pool} {loans : List (Option Slice)}
    (h : ∀ s ∈ loans.filterMap id, q.contents s = p.contents s) :
    loans.map (Option.map q.contents) = loans.map (Option.map p.contents) := by
  refine List.map_congr_left fun o ho => ?_
  cases o with
  | none => rfl
  | some s => exact congrArg some (h s (List.mem_filterMap.2 ⟨some s, ho, rfl⟩))

/-- A region is a region of zeros, carved out of a block or not. -/
theorem map_contents_regionSlices (p : Pool) :
    p.regionSlices.reverse.map p.grow.contents
      = List.replicate p.perRegion (zeros p.bufferSize) := by
  rw [List.eq_replicate_iff, List.length_map, List.length_reverse, length_regionSlices]
  refine ⟨rfl, fun b hb => ?_⟩
  obtain ⟨s, hs, rfl⟩ := List.mem_map.1 hb
  exact contents_regionSlices (List.mem_reverse.1 hs)

theorem Sound.shelf_ensureFree (h : p.Sound) : p.ensureFree.shelf = p.shelf.stock := by
  rw [Pool.ensureFree, Shelf.stock]
  by_cases hfree : p.free = []
  · have hempty : p.shelf.free.isEmpty = true := by
      rw [shelf, hfree]
      rfl
    have hnew : p.grow.free.map p.grow.contents
        = List.replicate p.perRegion (zeros p.bufferSize) := by
      rw [← map_contents_regionSlices, Pool.grow, hfree, List.append_nil]
    have hold : p.loans.map (Option.map p.grow.contents) = p.loans.map (Option.map p.contents) :=
      map_contents_congr fun s hs => contents_grow (h.within s (List.mem_append_right _ hs))
    rw [if_pos (by rw [hfree]; rfl), if_pos hempty, shelf, hnew]
    show Shelf.mk _ _ _ _ (p.loans.map (Option.map p.grow.contents)) = _
    rw [hold]
    rfl
  · have hsome : ¬ p.shelf.free.isEmpty = true := by
      rw [List.isEmpty_iff]
      exact fun hnil => hfree (List.map_eq_nil_iff.1 hnil)
    rw [if_neg (by rwa [List.isEmpty_iff]), if_neg hsome]

theorem shelf_lend (hfree : p.free ≠ []) : p.lend.shelf = p.shelf.lend := by
  have hsame : p.lend.contents = p.contents := funext fun s => contents_lend hfree
  obtain ⟨s, rest, hp⟩ := List.exists_cons_of_ne_nil hfree
  rw [shelf, hsame, lend_of_free hp, Shelf.lend]
  simp [shelf, hp]

theorem Sound.shelf_allocate (h : p.Sound) : p.allocate.shelf = p.shelf.take .allocate := by
  rw [Pool.allocate, shelf_lend h.free_ensureFree, h.shelf_ensureFree]
  rfl

theorem shelf_release (p : Pool) (loan : Nat) :
    ((p.release loan).1, (p.release loan).2.shelf) = p.shelf.release loan := by
  have hsame : (p.release loan).2.contents = p.contents := funext (p.contents_release loan)
  rw [Shelf.release, loan?_shelf, shelf, hsame]
  cases hloan : p.loan? loan with
  | none =>
    rw [release_of_returned hloan]
    rfl
  | some s =>
    simp only [release_of_loan? hloan, Option.map_some, List.map_cons, List.map_set,
      Option.map_none]
    rfl

/-- A slice on loan shares no byte with any other slice. -/
theorem Sound.apart_others (h : p.Sound) {before after : List (Option Slice)}
    (hloans : p.loans = before ++ some s :: after) :
    ∀ t ∈ p.free ++ (before.filterMap id ++ after.filterMap id), s.Apart t := by
  have hperm : p.slices.Perm (s :: (p.free ++ (before.filterMap id ++ after.filterMap id))) := by
    have hslices : p.slices = (p.free ++ before.filterMap id) ++ s :: after.filterMap id := by
      simp [slices, onLoan, hloans]
    rw [hslices, ← List.append_assoc]
    exact List.perm_middle
  exact (List.pairwise_cons.1 ((hperm.pairwise_iff Slice.Apart.symm).1 h.apart)).1

/-- A write through a loan changes one buffer of the shelf. -/
theorem Sound.shelf_put (h : p.Sound) (hloan : p.loan? loan = some s)
    (hfits : offset + bytes.length ≤ s.length) :
    (p.put s offset bytes).shelf
      = { p.shelf with
          loans := p.shelf.loans.set loan (some (overwrite (p.contents s) offset bytes)) } := by
  have hs := h.within s (mem_slices_of_loan? hloan)
  obtain ⟨before, after, hloans, hset⟩ :=
    Places.exists_split_map_of_getElem? (Option.map p.contents) (loan?_eq_some_iff.1 hloan)
  have hothers := h.apart_others hloans
  -- All slices but the one written to hold what they held.
  have hkept : ∀ t ∈ p.free ++ (before.filterMap id ++ after.filterMap id),
      (p.put s offset bytes).contents t = p.contents t :=
    fun t ht => contents_put_of_apart hs (hothers t ht) hfits
  have hfree : p.free.map (p.put s offset bytes).contents = p.free.map p.contents :=
    List.map_congr_left fun t ht => hkept t (List.mem_append_left _ ht)
  have hfront : before.map (Option.map (p.put s offset bytes).contents)
      = before.map (Option.map p.contents) :=
    map_contents_congr fun t ht => hkept t (List.mem_append_right _ (List.mem_append_left _ ht))
  have hback : after.map (Option.map (p.put s offset bytes).contents)
      = after.map (Option.map p.contents) :=
    map_contents_congr fun t ht => hkept t (List.mem_append_right _ (List.mem_append_right _ ht))
  have hwritten : p.loans.map (Option.map (p.put s offset bytes).contents)
      = (p.loans.map (Option.map p.contents)).set loan
          (some (overwrite (p.contents s) offset bytes)) := by
    rw [hset, hloans, List.map_append, List.map_cons, hfront, hback, Option.map_some,
      contents_put_self hs hfits]
  show Shelf.mk _ _ _ (p.free.map (p.put s offset bytes).contents)
    (p.loans.map (Option.map (p.put s offset bytes).contents)) = _
  rw [hfree, hwritten]
  rfl

theorem Sound.shelf_write (h : p.Sound) (loan offset : Nat) (bytes : Bytes) :
    (p.write loan offset bytes).void = (p.shelf.write loan offset bytes).void ∧
      (p.take (.write loan offset bytes)).shelf = p.shelf.take (.write loan offset bytes) := by
  rw [Pool.write, Shelf.take, Shelf.write, loan?_shelf]
  cases hloan : p.loan? loan with
  | none => exact ⟨rfl, by rw [take_write_of_returned hloan]; rfl⟩
  | some s =>
    have hlength := length_contents (h.within s (mem_slices_of_loan? hloan))
    rw [take_write_of_loan? hloan]
    simp only [Option.map_some, hlength]
    by_cases hfits : offset + bytes.length ≤ s.length
    · rw [if_pos hfits, if_pos hfits, if_pos hfits, h.shelf_put hloan hfits]
      exact ⟨rfl, rfl⟩
    · rw [if_neg hfits, if_neg hfits, if_neg hfits]
      exact ⟨rfl, rfl⟩

theorem Sound.shelf_read (h : p.Sound) (loan offset n : Nat) :
    p.read loan offset n = p.shelf.read loan offset n := by
  rw [Pool.read, Shelf.read, loan?_shelf]
  cases hloan : p.loan? loan with
  | none => rfl
  | some s =>
    simp only [Option.map_some, length_contents (h.within s (mem_slices_of_loan? hloan))]

/-- A step of a pool is a step of its shelf. -/
theorem Sound.shelf_take (h : p.Sound) (step : PoolStep) :
    (p.take step).shelf = p.shelf.take step := by
  cases step with
  | allocate => exact h.shelf_allocate
  | write loan offset bytes => exact (h.shelf_write loan offset bytes).2
  | release loan => exact congrArg Prod.snd (p.shelf_release loan)

/-- So is the reply to a call. -/
theorem Sound.reply_shelf (h : p.Sound) (call : PoolCall) :
    p.reply call = p.shelf.reply call ∧ (p.after call).shelf = p.shelf.after call := by
  have hafter : (p.after call).shelf = p.shelf.after call := by
    cases call with
    | act step => exact h.shelf_take step
    | read loan offset n => rfl
  have hanswer : p.answer call = p.shelf.answer call := by
    cases call with
    | read loan offset n => exact congrArg PoolAnswer.found (h.shelf_read loan offset n)
    | act step =>
      cases step with
      | allocate =>
        obtain ⟨s, hs, hloan⟩ := exists_loan?_allocate h
        have hshelf : (p.shelf.take .allocate).loan? p.shelf.loans.length
            = some (p.allocate.contents s) := by
          have hnumber : p.shelf.loans.length = p.loans.length := List.length_map _
          rw [← h.shelf_allocate, hnumber, loan?_shelf, hloan, Option.map_some]
        rw [answer, Shelf.answer, hshelf, length?, hloan, Option.map_some, Option.map_some,
          length_contents (h.allocate.within s hs)]
      | write loan offset bytes =>
        exact congrArg PoolAnswer.written (h.shelf_write loan offset bytes).1
      | release loan =>
        exact congrArg (fun r => PoolAnswer.returned r.1) (p.shelf_release loan)
  refine ⟨?_, hafter⟩
  rw [Pool.reply, Shelf.reply, hanswer, ← hafter]
  simp [shelf, available]

theorem Sound.after (h : p.Sound) (call : PoolCall) : (p.after call).Sound := by
  cases call with
  | act step => exact h.take step
  | read loan offset n => exact h

/-- The replies of a pool are those of its shelf. -/
theorem Sound.replies_shelf (h : p.Sound) (calls : List PoolCall) :
    p.replies calls = p.shelf.replies calls := by
  induction calls generalizing p with
  | nil => rfl
  | cons call calls ih =>
    obtain ⟨hreply, hafter⟩ := h.reply_shelf call
    rw [replies, Shelf.replies, hreply, ih (h.after call), hafter]

end Pool

end Gatehouse.Buffer
