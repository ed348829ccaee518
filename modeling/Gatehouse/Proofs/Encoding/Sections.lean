import Gatehouse.Proofs.Encoding.Bundle

namespace Gatehouse.Pem

/-!
# The sections of a file

A file with armour is cut into lines by line feeds and by carriage returns, and read line by line.
Lines outside a section are passed over, and a section is read up to its own end.

* `pieces`, `fileLines_encode` — the lines of a file, by the lines of its text;
* `IsLabel`, `sectionLabel?_begin` — labels that every reader takes for the same;
* `blocksFrom_outside`, `blocksFrom_begin`, `blocksFrom_body`, `blocksFrom_end` — one step of the
  reader for each kind of line.
-/

variable {label line : List Char} {content bs : Bytes} {lines : List Bytes}

/-! ### Lines of a file -/

theorem fileLines_ne_nil (bs : Bytes) : fileLines bs ≠ [] := by
  cases bs with
  | nil => exact List.cons_ne_nil _ _
  | cons b bs =>
    rw [fileLines]
    split
    · exact List.cons_ne_nil _ _
    · split <;> exact List.cons_ne_nil _ _

/-- Bytes that end no line are put in front of the first line. -/
theorem fileLines_append {a : Bytes} (ha : ∀ b ∈ a, isLineEnd b = false) {first : Bytes}
    (h : fileLines bs = first :: lines) : fileLines (a ++ bs) = (a ++ first) :: lines := by
  induction a with
  | nil => exact h
  | cons b a ih =>
    obtain ⟨hb, ha⟩ := List.forall_mem_cons.1 ha
    rw [List.cons_append, fileLines, if_neg (by simp [hb]), ih ha]
    rfl

/-- The lines of a file that a line of text amounts to, as a carriage return ends one too. -/
def pieces (line : List Char) : List Bytes := (Text.splitAll '\r' line).map Utf8.encode

theorem pieces_ne_nil (line : List Char) : pieces line ≠ [] := by
  rw [pieces, Ne, List.map_eq_nil_iff]
  exact Text.splitAll_ne_nil '\r' line

theorem pieces_return (line : List Char) : pieces ('\r' :: line) = [] :: pieces line := by
  unfold pieces
  rw [Text.splitAll, if_pos rfl]
  rfl

/-- What stands in front of the first carriage return comes first. -/
theorem exists_pieces_eq_cons (line : List Char) :
    ∃ p ps, Text.splitAll '\r' line = p :: ps ∧
      pieces line = Utf8.encode p :: ps.map Utf8.encode := by
  obtain ⟨p, ps, hps⟩ := List.exists_cons_of_ne_nil (Text.splitAll_ne_nil '\r' line)
  refine ⟨p, ps, hps, ?_⟩
  rw [pieces, hps, List.map_cons]

/-- What holds no carriage return is put in front of the first of them. -/
theorem pieces_append {a : List Char} (ha : '\r' ∉ a) {first : Bytes}
    (h : pieces line = first :: lines) :
    pieces (a ++ line) = (Utf8.encode a ++ first) :: lines := by
  obtain ⟨p, ps, hps, hpieces⟩ := exists_pieces_eq_cons line
  obtain ⟨rfl, rfl⟩ := List.cons.inj (hpieces.symm.trans h)
  rw [pieces, Text.splitAll_append_of_notMem ha hps, List.map_cons, Utf8.encode_append]

/-- Only the two line ends are encoded with their bytes. -/
theorem isLineEnd_of_mem_encode {cs : List Char} (hfeed : '\n' ∉ cs) (hreturn : '\r' ∉ cs) :
    ∀ b ∈ Utf8.encode cs, isLineEnd b = false := by
  intro b hb
  rw [isLineEnd, Bool.or_eq_false_iff, beq_eq_false_iff_ne, beq_eq_false_iff_ne]
  constructor
  · rintro rfl
    exact hfeed ((Utf8.mem_encode_iff (c := '\n') (by decide)).1 hb)
  · rintro rfl
    exact hreturn ((Utf8.mem_encode_iff (c := '\r') (by decide)).1 hb)

/-- The lines of an encoded text. -/
theorem fileLines_encode (text : List Char) :
    fileLines (Utf8.encode text) = (Text.splitAll '\n' text).flatMap pieces := by
  induction text with
  | nil => rfl
  | cons c cs ih =>
    obtain ⟨p, ps, hps⟩ := List.exists_cons_of_ne_nil (Text.splitAll_ne_nil '\n' cs)
    by_cases hfeed : c = '\n'
    · subst hfeed
      rw [Text.splitAll, if_pos rfl, List.flatMap_cons, ← ih]
      rfl
    · rw [Text.splitAll, if_neg hfeed, hps]
      rw [hps, List.flatMap_cons] at ih
      show fileLines (Utf8.encode (c :: cs)) = ((c :: p) :: ps).flatMap pieces
      rw [List.flatMap_cons]
      by_cases hreturn : c = '\r'
      · subst hreturn
        rw [pieces_return, List.cons_append, ← ih]
        rfl
      · -- The character goes in front of the first piece of the first line.
        obtain ⟨q, qs, hqs⟩ := List.exists_cons_of_ne_nil (pieces_ne_nil p)
        have hmem : '\n' ∉ [c] ∧ '\r' ∉ [c] := by simp [Ne.symm hfeed, Ne.symm hreturn]
        have hpieces : pieces (c :: p) = (Utf8.encode [c] ++ q) :: qs := pieces_append hmem.2 hqs
        rw [hqs, List.cons_append] at ih
        have hencode : Utf8.encode (c :: cs) = Utf8.encode [c] ++ Utf8.encode cs :=
          Utf8.encode_append [c] cs
        rw [hpieces, List.cons_append, hencode,
          fileLines_append (isLineEnd_of_mem_encode hmem.1 hmem.2) ih]

/-! ### Marks -/

theorem ascii_beginMark : ∀ c ∈ beginMark, c.toNat < 0x80 := by
  have hall : beginMark.all (·.toNat < 0x80) = true := rfl
  simpa using hall

theorem ascii_endMark : ∀ c ∈ endMark, c.toNat < 0x80 := by
  have hall : endMark.all (·.toNat < 0x80) = true := rfl
  simpa using hall

/-- A line without dashes begins and ends nothing. -/
theorem not_prefix_of_notMem {line : Bytes} (h : 45 ∉ line) :
    ¬ Utf8.encode beginMark <+: line ∧ ¬ Utf8.encode endMark <+: line := by
  have hmarks : 45 ∈ Utf8.encode beginMark ∧ 45 ∈ Utf8.encode endMark := by decide +kernel
  exact ⟨fun hfront => h (hfront.subset hmarks.1), fun hfront => h (hfront.subset hmarks.2)⟩

/-- A dash in a piece of a line is one of the line. -/
theorem notMem_of_mem_pieces (h : '-' ∉ line) : ∀ piece ∈ pieces line, 45 ∉ piece := by
  intro piece hpiece hdash
  obtain ⟨part, hpart, rfl⟩ := List.mem_map.1 hpiece
  have hmem : '-' ∈ part := (Utf8.mem_encode_iff (c := '-') (by decide)).1 hdash
  exact h (Text.mem_of_mem_splitAll hpart hmem)

/-- A line that ends a section begins none. -/
theorem not_begins_endLine (label : List Char) (tail : Bytes) :
    ¬ Utf8.encode beginMark <+: Utf8.encode (endLine label) ++ tail := by
  intro h
  have hend : Utf8.encode endMark <+: Utf8.encode (endLine label) ++ tail := by
    rw [endLine, List.append_assoc, Utf8.encode_append, List.append_assoc]
    exact List.prefix_append _ _
  -- Two marks at the front of one line would be one the front of the other.
  rcases List.prefix_or_prefix_of_prefix h hend with hfront | hfront
  · rw [Utf8.encode_prefix_iff ascii_beginMark] at hfront
    revert hfront
    decide +kernel
  · rw [Utf8.encode_prefix_iff ascii_endMark] at hfront
    revert hfront
    decide +kernel

/-! ### Labels -/

/-- A label that stands on one line and holds no dash. -/
def IsLabel (label : List Char) : Prop := ∀ c ∈ label, c ≠ '-' ∧ c ≠ '\n' ∧ c ≠ '\r'

theorem IsLabel.notMem_encode (h : IsLabel label) : 45 ∉ Utf8.encode label := by
  intro hmem
  exact (h '-' ((Utf8.mem_encode_iff (c := '-') (by decide)).1 hmem)).1 rfl

/-- Five dashes between spaces. -/
def dashed (before after : Nat) : Bytes :=
  List.replicate before 32 ++ (List.replicate 5 45 ++ List.replicate after 32)

theorem count_dashed (before after : Nat) : (dashed before after).count 45 = 5 := by
  simp [dashed, List.count_append, List.count_replicate]

/-- Without the spaces at the end, the dashes and what stands in front of them are left. -/
theorem length_dropWhile_dashed (before after : Nat) :
    ((dashed before after).reverse.dropWhile (· == 32)).length = 5 + before := by
  have hspaces : ∀ b ∈ List.replicate after (32 : UInt8), (b == 32) = true := by
    intro b hb
    rw [List.eq_of_mem_replicate hb]
    rfl
  rw [dashed, List.reverse_append, List.reverse_append, List.reverse_replicate,
    List.reverse_replicate, List.reverse_replicate, List.append_assoc,
    List.dropWhile_append_of_pos hspaces]
  have hdash : ∀ rest : Bytes, ((List.replicate 5 45 ++ rest).dropWhile (· == 32))
      = List.replicate 5 45 ++ rest := fun _ => rfl
  rw [hdash, List.length_append, List.length_replicate, List.length_replicate]

/-- The dashes at the end of a line take the spaces in front of them along. -/
theorem exists_takeWhile_dashed {front : Bytes} (h : 45 ∉ front) (k : Nat) :
    ∃ m, (front ++ dashed 0 k).reverse.takeWhile (fun b => b == 45 || b == 32) = dashed k m := by
  have hspaces : ∀ b ∈ front.reverse.takeWhile (fun b => b == 45 || b == 32), b = 32 := by
    intro b hb
    have hmem : b ∈ front := List.mem_reverse.1 ((List.takeWhile_sublist _).subset hb)
    have htail := List.mem_takeWhile_imp hb
    rw [Bool.or_eq_true, beq_iff_eq, beq_iff_eq] at htail
    rcases htail with rfl | rfl
    · exact absurd hmem h
    · rfl
  have hreplicate : ∀ (n : Nat) (a : UInt8), (a == 45 || a == 32) = true →
      ∀ b ∈ List.replicate n a, (b == 45 || b == 32) = true := by
    intro n a ha b hb
    rwa [List.eq_of_mem_replicate hb]
  refine ⟨(front.reverse.takeWhile fun b => b == 45 || b == 32).length, ?_⟩
  rw [dashed, dashed, ← List.eq_replicate_of_mem hspaces, List.reverse_append, List.reverse_append,
    List.reverse_append, List.reverse_replicate, List.reverse_replicate, List.replicate_zero,
    List.reverse_nil, List.append_nil, List.append_assoc,
    List.takeWhile_append_of_pos (hreplicate k 32 rfl),
    List.takeWhile_append_of_pos (hreplicate 5 45 rfl)]

/-- The label of a section is what stands in front of the dashes. -/
theorem sectionLabel?_begin (h : IsLabel label) (k : Nat) :
    sectionLabel? (Utf8.encode (beginLine label ++ List.replicate k ' '))
      = some (Utf8.encode label) := by
  have hencode : Utf8.encode (beginLine label ++ List.replicate k ' ')
      = Utf8.encode beginMark ++ (Utf8.encode label ++ dashed 0 k) := by
    have hspaces : Utf8.encode (List.replicate k ' ') = List.replicate k 32 := by
      rw [Utf8.encode, List.flatMap_replicate]
      exact List.flatten_replicate_singleton
    rw [beginLine, List.append_assoc, List.append_assoc, Utf8.encode_append, Utf8.encode_append,
      Utf8.encode_append, hspaces]
    rfl
  have hdrop : (Utf8.encode (beginLine label ++ List.replicate k ' ')).drop beginMark.length
      = Utf8.encode label ++ dashed 0 k := by
    have hlength : beginMark.length = (Utf8.encode beginMark).length := rfl
    rw [hencode, hlength, List.drop_left]
  obtain ⟨m, htail⟩ := exists_takeWhile_dashed h.notMem_encode k
  have hlabel : (Utf8.encode label ++ dashed 0 k).length - (5 + k)
      = (Utf8.encode label).length := by
    simp only [dashed, List.length_append, List.length_replicate]
    omega
  -- The spaces that a label ends with are counted with the dashes, and given back.
  unfold sectionLabel?
  simp only [hdrop, htail, count_dashed, length_dropWhile_dashed, hlabel, if_true, List.take_left]

/-! ### Sections -/

/-- Lines that begin nothing are passed over between sections. -/
theorem blocksFrom_outside (h : ∀ line ∈ lines, ¬ Utf8.encode beginMark <+: line)
    (rest : List Bytes) : blocksFrom none (lines ++ rest) = blocksFrom none rest := by
  induction lines with
  | nil => rfl
  | cons line lines ih =>
    obtain ⟨hline, hlines⟩ := List.forall_mem_cons.1 h
    have hplain : ¬ (Utf8.encode beginMark).isPrefixOf line = true := fun h =>
      hline (List.isPrefixOf_iff_prefix.1 h)
    rw [List.cons_append, blocksFrom, if_neg hplain]
    exact ih hlines

/-- The bytes of a line that count inside a section. -/
def kept (line : Bytes) : Bytes := line.filter fun b => !isFiller b

theorem kept_append (a b : Bytes) : kept (a ++ b) = kept a ++ kept b := List.filter_append _ _

/-- Line ends do not count inside a block. -/
theorem kept_pieces (line : List Char) : (pieces line).flatMap kept = kept (Utf8.encode line) := by
  induction line with
  | nil => rfl
  | cons c line ih =>
    by_cases hc : c = '\r'
    · subst hc
      rw [pieces_return, List.flatMap_cons, ih]
      rfl
    · obtain ⟨q, qs, hqs⟩ := List.exists_cons_of_ne_nil (pieces_ne_nil line)
      have hmem : '\r' ∉ [c] := by simp [Ne.symm hc]
      have hpieces : pieces (c :: line) = (Utf8.encode [c] ++ q) :: qs := pieces_append hmem hqs
      have hencode : Utf8.encode (c :: line) = Utf8.encode [c] ++ Utf8.encode line :=
        Utf8.encode_append [c] line
      rw [hqs, List.flatMap_cons] at ih
      rw [hpieces, hencode, List.flatMap_cons, kept_append, kept_append, List.append_assoc, ih]

/-- Of a line of ASCII all but the blanks counts. -/
theorem kept_encode (hascii : ∀ c ∈ line, c.toNat < 0x80) :
    kept (Utf8.encode line) = Utf8.encode (line.filter fun c => !Text.isBlank c) := by
  induction line with
  | nil => rfl
  | cons c line ih =>
    obtain ⟨hc, hline⟩ := List.forall_mem_cons.1 hascii
    have hfiller : isFiller (UInt8.ofNat c.toNat) = Text.isBlank c := by
      rw [Bool.eq_iff_iff]
      simp only [isFiller, Text.isBlank, Bool.or_eq_true, Bool.and_eq_true, decide_eq_true_eq,
        beq_iff_eq, ← UInt8.toNat_inj, Utf8.toNat_ofNat_of_lt hc]
      simp only [UInt8.reduceToNat]
      omega
    rw [Utf8.encode_cons, kept_append, ih hline, Utf8.utf8EncodeChar_of_lt hc, kept,
      List.filter_singleton, hfiller, List.filter_cons]
    cases Text.isBlank c with
    | true => rfl
    | false =>
      rw [Bool.not_false, if_pos rfl, Utf8.encode_cons, Utf8.utf8EncodeChar_of_lt hc]
      rfl

/-- Lines of a section are collected. -/
theorem blocksFrom_body (h : ∀ line ∈ lines, 45 ∉ line) (label text : Bytes) (rest : List Bytes) :
    blocksFrom (some (label, text)) (lines ++ rest)
      = blocksFrom (some (label, text ++ lines.flatMap kept)) rest := by
  induction lines generalizing text with
  | nil => rw [List.nil_append, List.flatMap_nil, List.append_nil]
  | cons line lines ih =>
    obtain ⟨hline, hlines⟩ := List.forall_mem_cons.1 h
    obtain ⟨hbegin, hend⟩ := not_prefix_of_notMem hline
    have hplain : ¬ (Utf8.encode beginMark).isPrefixOf line = true := fun h =>
      hbegin (List.isPrefixOf_iff_prefix.1 h)
    have hopen : ¬ endsSection label line = true := by
      intro h
      refine hend (List.IsPrefix.trans ?_ (List.isPrefixOf_iff_prefix.1 h))
      rw [List.append_assoc]
      exact List.prefix_append _ _
    rw [List.cons_append, blocksFrom, if_neg hplain]
    simp only [if_neg hopen]
    rw [ih hlines, List.flatMap_cons, List.append_assoc]
    rfl

theorem blocksFrom_begin (h : IsLabel label) (k : Nat) (rest : List Bytes) :
    blocksFrom none (Utf8.encode (beginLine label ++ List.replicate k ' ') :: rest)
      = blocksFrom (some (Utf8.encode label, [])) rest := by
  have hbegins : (Utf8.encode beginMark).isPrefixOf
      (Utf8.encode (beginLine label ++ List.replicate k ' ')) = true := by
    rw [List.isPrefixOf_iff_prefix, Utf8.encode_prefix_iff ascii_beginMark, beginLine,
      List.append_assoc, List.append_assoc]
    exact List.prefix_append _ _
  rw [blocksFrom, if_pos hbegins, sectionLabel?_begin h]
  rfl

/-- Puts blocks in front of those that are found. -/
def Blocks.behind (bs : Blocks) (front : List Block) : Blocks :=
  { bs with found := front ++ bs.found }

theorem Blocks.behind_append (bs : Blocks) (a b : List Block) :
    bs.behind (a ++ b) = (bs.behind b).behind a := by
  simp only [behind, List.append_assoc]

/-- What a section with a label is found to be: nothing, if no one knows the label. -/
def section? (label : List Char) (content : Bytes) : List Block :=
  (Label.ofBytes? (Utf8.encode label)).toList.map (⟨·, content⟩)

/-- The end of a section is told by its own label, and the text collected so far is read. -/
theorem blocksFrom_end {text : Bytes} (htext : Base64.decodePadded? text = some content)
    (tail : Bytes) (rest : List Bytes) :
    blocksFrom (some (Utf8.encode label, text)) ((Utf8.encode (endLine label) ++ tail) :: rest)
      = (blocksFrom none rest).behind (section? label content) := by
  have hplain : ¬ (Utf8.encode beginMark).isPrefixOf (Utf8.encode (endLine label) ++ tail) = true :=
    fun h => not_begins_endLine label tail (List.isPrefixOf_iff_prefix.1 h)
  have hends : endsSection (Utf8.encode label) (Utf8.encode (endLine label) ++ tail) = true := by
    rw [endsSection, List.isPrefixOf_iff_prefix, endLine, Utf8.encode_append, Utf8.encode_append]
    exact List.prefix_append _ _
  rw [blocksFrom, if_neg hplain, section?]
  simp only [if_pos hends, htext]
  cases Label.ofBytes? (Utf8.encode label) with
  | none => rfl
  | some l => rfl

end Gatehouse.Pem
