import Gatehouse.Proofs.Encoding.Sections

namespace Gatehouse.Pem

/-!
# Documents that all readers take alike

A reader of texts and a reader of files differ in what they take for the lines of a block: one of
them does not mind blanks of any kind at the ends of lines, the other none inside a block, only one
of them lets a carriage return end a line, and only one drops the blanks in front of the whole text.
In the documents of this module nothing depends on that. The text outside blocks is free, as long
as no line of it begins a block for either reader.

* `Opens`, `IsOutside`, `Passed`, `IsDocument` — the lines of a block, the lines between blocks,
  what may stand in front of the block that is wanted, and the whole text;
* `Passed.trimStart`, `IsDocument.holds` — the first block with the label, for the reader of texts;
* `exists_pieces_blanks`, `blocksFrom_parts` — lines of blanks, and lines that begin no block, once
  carriage returns have taken them apart;
* `blocksFrom_opens`, `exists_blocksFrom_passed` — one block, and all blocks in front, for the
  reader of files;
* `exists_blocks_isDocument` — what a file is read to, which goes on behind the block.
-/

/-- The lines of a block in front of the one that ends it, as every reader takes them: spaces and
    carriage returns may stand behind the dashes, and any blanks of ASCII at the ends of the lines
    that hold the content. -/
structure Opens (label : List Char) (content : Bytes) (first : List Char)
    (body : List (List Char)) : Prop where
  isLabel : IsLabel label
  begins : ∃ blanks, first = beginLine label ++ blanks ∧ ∀ c ∈ blanks, c = ' ' ∨ c = '\r'
  ascii : ∀ line ∈ body, ∀ c ∈ line, c.toNat < 0x80
  written : body.flatMap Text.trimEnd = Utf8.ofAscii (Base64.padded content)

/-- A line that begins no block, neither without the blanks in front of it nor behind a carriage
    return. -/
def IsOutside (line : List Char) : Prop :=
  ¬ beginMark <+: Text.trimStart line ∧ ∀ piece ∈ Text.splitAll '\r' line, ¬ beginMark <+: piece

/-- Lines without a block of the label that is wanted: whole blocks with other labels, and lines
    outside blocks. -/
inductive Passed (wanted : List Char) : List (List Char) → Prop where
  | nil : Passed wanted []
  | line {line : List Char} {lines : List (List Char)} (outside : IsOutside line)
      (rest : Passed wanted lines) : Passed wanted (line :: lines)
  | block {label : List Char} {content : Bytes} {first last : List Char}
      {body lines : List (List Char)} (opens : Opens label content first body)
      (other : label ≠ wanted) (ends : endLine label <+: last)
      (alone : ∀ piece ∈ (Text.splitAll '\r' last).tail, ¬ beginMark <+: piece)
      (rest : Passed wanted lines) : Passed wanted (first :: body ++ last :: lines)

/-- The first block of the text with the label holds the content, and all readers agree on it. What
    follows the mark at its end is not part of the block, and may be anything. -/
def IsDocument (label : List Char) (content : Bytes) (text rest : List Char) : Prop :=
  ∃ before first body, Passed label before ∧ Opens label content first body ∧
    (∀ line ∈ before ++ first :: body, '\n' ∉ line) ∧
    text = Text.joinWith ['\n'] (before ++ first :: body) ++ '\n' :: (endLine label ++ rest)

variable {label wanted first last line text rest : List Char} {content : Bytes}
  {body before lines : List (List Char)}

/-! ### The lines of a block -/

theorem Opens.startsWith_beginMark (h : Opens label content first body) : beginMark <+: first := by
  obtain ⟨blanks, rfl, -⟩ := h.begins
  rw [beginLine, List.append_assoc, List.append_assoc]
  exact List.prefix_append _ _

theorem IsLabel.notMem_endLine (h : IsLabel label) :
    '\n' ∉ endLine label ∧ '\r' ∉ endLine label := by
  have hmarks : '\n' ∉ endMark ∧ '\r' ∉ endMark ∧ '\n' ∉ dashes ∧ '\r' ∉ dashes := by decide +kernel
  simp only [endLine, List.mem_append, not_or]
  exact ⟨⟨⟨hmarks.1, fun hmem => (h _ hmem).2.1 rfl⟩, hmarks.2.2.1⟩,
    ⟨hmarks.2.1, fun hmem => (h _ hmem).2.2 rfl⟩, hmarks.2.2.2⟩

theorem IsLabel.notMem_beginLine (h : IsLabel label) : '\r' ∉ beginLine label := by
  have hmarks : '\r' ∉ beginMark ∧ '\r' ∉ dashes := by decide +kernel
  simp only [beginLine, List.mem_append, not_or]
  exact ⟨⟨hmarks.1, fun hmem => (h _ hmem).2.2 rfl⟩, hmarks.2⟩

theorem isBlank_of_mem_blanks {blanks : List Char} (h : ∀ c ∈ blanks, c = ' ' ∨ c = '\r') {c : Char}
    (hc : c ∈ blanks) : Text.isBlank c = true := by
  rcases h c hc with rfl | rfl
  · rfl
  · rfl

/-- The lines of the content have neither a dash nor a blank in front of their ends. -/
theorem Opens.visible (h : Opens label content first body) (hline : line ∈ body) :
    '-' ∉ line ∧ ∀ c ∈ Text.trimEnd line, Text.isBlank c = false := by
  have hvisible : ∀ c ∈ Text.trimEnd line, Text.isBlank c = false ∧ c ≠ '-' := by
    intro c hc
    have hmem : c ∈ Utf8.ofAscii (Base64.padded content) :=
      h.written ▸ List.mem_flatMap.2 ⟨line, hline, hc⟩
    exact Base64.visible_of_mem_ofAscii hmem
  constructor
  · intro hdash
    exact (hvisible '-' (Text.mem_trimEnd hdash rfl)).2 rfl
  · intro c hc
    exact (hvisible c hc).1

/-! ### The first block of a text -/

/-- Nothing is trimmed off in front of the dashes at the end of a line. -/
theorem trimEnd_append_dashes (front rest : List Char) :
    Text.trimEnd (front ++ (dashes ++ rest)) = front ++ (dashes ++ Text.trimEnd rest) := by
  have hdashes : dashes ≠ [] := by decide +kernel
  have hne : front ++ dashes ≠ [] := List.append_ne_nil_of_right_ne_nil _ hdashes
  have hlast : Text.isBlank ((front ++ dashes).getLast hne) = false := by
    rw [List.getLast_append_of_ne_nil hne hdashes]
    rfl
  rw [← List.append_assoc, Text.trimEnd_append_of_last hne hlast, List.append_assoc]

theorem Opens.isBlock (h : Opens label content first body) (ends : endLine label <+: last) :
    IsBlock label content (first :: body ++ [last]) := by
  obtain ⟨blanks, rfl, hblanks⟩ := h.begins
  refine .intro ?_ h.written ends
  rw [Text.trimEnd_append_of_blank _ fun c hc => isBlank_of_mem_blanks hblanks hc, beginLine]
  have hdashes := trimEnd_append_dashes (beginMark ++ label) []
  rwa [List.append_nil] at hdashes

theorem IsOutside.not_begins (h : IsOutside line) : ¬ beginMark <+: line := by
  intro hfront
  obtain ⟨tail, rfl⟩ := hfront
  exact h.1 (List.prefix_append _ _)

theorem Passed.isPreamble (h : Passed wanted before) : IsPreamble wanted before := by
  induction h with
  | nil => exact .nil
  | line outside _ ih => exact .line outside.not_begins ih
  | @block label _ first last body lines opens other ends _ _ ih =>
    have hlabel : label.takeWhile (· != '-') = label :=
      takeWhile_eq_self_of_notMem fun hdash => (opens.isLabel _ hdash).1 rfl
    have hlines : first :: body ++ last :: lines = (first :: body ++ [last]) ++ lines := by simp
    rw [hlines]
    exact .block (opens.isBlock ends) (by rwa [hlabel]) ih

/-- Nothing is trimmed off in front of a mark. -/
theorem trimStart_joinWith_mark (h : beginMark <+: first) (lines : List (List Char)) :
    Text.trimStart (Text.joinWith ['\n'] (first :: lines))
      = Text.joinWith ['\n'] (first :: lines) := by
  obtain ⟨tail, rfl⟩ := h
  rw [Text.joinWith_cons, List.append_assoc]
  rfl

/-- A line of blanks in front of other lines goes, and with it its end. -/
theorem trimStart_joinWith_blank (hblank : ∀ c ∈ line, Text.isBlank c = true) (hne : lines ≠ []) :
    Text.trimStart (Text.joinWith ['\n'] (line :: lines))
      = Text.trimStart (Text.joinWith ['\n'] lines) := by
  obtain ⟨next, others, rfl⟩ := List.exists_cons_of_ne_nil hne
  rw [Text.joinWith, List.append_assoc, Text.trimStart, List.dropWhile_append_of_pos hblank]
  · rfl
  · exact List.cons_ne_nil _ _

/-- Blanks at the start of a text are at most whole lines and the start of a line outside blocks. -/
theorem Passed.trimStart (h : Passed wanted before) (hbegins : beginMark <+: first)
    (hfree : ∀ line ∈ before ++ first :: body, '\n' ∉ line) :
    ∃ lines, IsPreamble wanted lines ∧
      Text.IsCut '\n' (Text.trimStart (Text.joinWith ['\n'] (before ++ first :: body)))
        (lines ++ first :: body) := by
  induction h with
  | nil =>
    refine ⟨[], .nil, List.cons_ne_nil _ _, hfree, ?_⟩
    exact (trimStart_joinWith_mark hbegins body).symm
  | @line line lines outside rest ih =>
    obtain ⟨hline, hlines⟩ := List.forall_mem_cons.1 hfree
    by_cases hblank : ∀ c ∈ line, Text.isBlank c = true
    · rw [List.cons_append, trimStart_joinWith_blank hblank (by simp)]
      exact ih hlines
    · push Not at hblank
      obtain ⟨c, hc, hkept⟩ := hblank
      rw [← Bool.eq_false_iff] at hkept
      refine ⟨Text.trimStart line :: lines, .line outside.1 rest.isPreamble,
        List.cons_ne_nil _ _, ?_, ?_⟩
      · rw [List.cons_append, List.forall_mem_cons]
        exact ⟨fun hmem => hline ((Text.trimStart_sublist line).subset hmem), hlines⟩
      · rw [List.cons_append, List.cons_append, Text.joinWith_cons, Text.joinWith_cons,
          Text.trimStart_append_of_mem hc hkept]
  | @block label content first' last body' lines opens other ends alone rest ih =>
    refine ⟨_, (Passed.block opens other ends alone rest).isPreamble, by simp, hfree, ?_⟩
    exact (trimStart_joinWith_mark opens.startsWith_beginMark _).symm

/-- The first block of a document is the first one for the reader of texts. -/
theorem IsDocument.holds (h : IsDocument label content text rest) :
    Holds label content (Text.trim text) := by
  obtain ⟨before, first, body, hbefore, hopens, hfree, rfl⟩ := h
  obtain ⟨lines, hpreamble, hcut⟩ := hbefore.trimStart hopens.startsWith_beginMark hfree
  obtain ⟨p, ps, hps⟩ := List.exists_cons_of_ne_nil (Text.splitAll_ne_nil '\n' (Text.trimEnd rest))
  refine ⟨lines, first :: body ++ [endLine label ++ p], ps, ?_, hpreamble,
    hopens.isBlock (List.prefix_append _ _)⟩
  have hdash : '-' ∈ Text.joinWith ['\n'] (before ++ first :: body) := by
    have hmem : first ∈ before ++ first :: body := by simp
    refine (Text.infix_joinWith hmem).subset (hopens.startsWith_beginMark.subset ?_)
    exact List.mem_of_mem_head? rfl
  have hend : ∀ front : List Char,
      Text.trimEnd (front ++ '\n' :: (endLine label ++ rest))
        = front ++ '\n' :: (endLine label ++ Text.trimEnd rest) := by
    intro front
    have hdashes := trimEnd_append_dashes (front ++ '\n' :: (endMark ++ label)) rest
    simpa only [endLine, List.append_assoc, List.cons_append] using hdashes
  rw [Text.trim, Text.trimStart_append_of_mem hdash rfl, hend, Text.isCut_iff,
    Text.splitAll_append_cons, Text.isCut_iff.1 hcut,
    Text.splitAll_append_of_notMem hopens.isLabel.notMem_endLine.1 hps]
  simp

/-! ### The blocks of a file -/

/-- The lines of the content amount to its base64. -/
theorem Opens.kept_body (h : Opens label content first body) :
    (body.flatMap pieces).flatMap kept = Base64.padded content := by
  have hline : ∀ line ∈ body, (pieces line).flatMap kept = Utf8.encode (Text.trimEnd line) := by
    intro line hline
    rw [kept_pieces, kept_encode (h.ascii line hline), Text.filter_eq_trimEnd (h.visible hline).2]
  have hencode : ∀ lines : List (List Char),
      lines.flatMap (fun line => Utf8.encode (Text.trimEnd line))
        = Utf8.encode (lines.flatMap Text.trimEnd) := by
    intro lines
    rw [Utf8.encode, List.flatMap_assoc]
    rfl
  calc (body.flatMap pieces).flatMap kept
      = body.flatMap fun line => (pieces line).flatMap kept := List.flatMap_assoc
    _ = body.flatMap fun line => Utf8.encode (Text.trimEnd line) := List.flatMap_congr hline
    _ = Utf8.encode (Utf8.ofAscii (Base64.padded content)) := by rw [hencode, h.written]
    _ = Base64.padded content := Utf8.encode_ofAscii (Base64.toNat_lt_of_mem_append_pad content _)

/-- Spaces and carriage returns come apart in some spaces and lines of which nothing counts. -/
theorem exists_pieces_blanks {blanks : List Char} (h : ∀ c ∈ blanks, c = ' ' ∨ c = '\r') :
    ∃ k ps, pieces blanks = Utf8.encode (List.replicate k ' ') :: ps ∧
      (∀ line ∈ ps, 45 ∉ line) ∧ ps.flatMap kept = [] := by
  obtain ⟨p, ps, hps, hpieces⟩ := exists_pieces_eq_cons blanks
  have hmem : p ∈ Text.splitAll '\r' blanks := hps ▸ List.mem_cons_self
  have hspaces : p = List.replicate p.length ' ' := by
    refine List.eq_replicate_of_mem fun c hc => ?_
    refine (h c (Text.mem_of_mem_splitAll hmem hc)).resolve_right ?_
    rintro rfl
    exact Text.notMem_of_mem_splitAll hmem hc
  have hnone : '-' ∉ blanks := by
    intro hdash
    have hblank := h '-' hdash
    revert hblank
    decide
  have hascii : ∀ c ∈ blanks, c.toNat < 0x80 := by
    intro c hc
    rcases h c hc with rfl | rfl
    · decide
    · decide
  have hnothing : (pieces blanks).flatMap kept = [] := by
    rw [kept_pieces, kept_encode hascii, List.filter_eq_nil_iff.2]
    · rfl
    · intro c hc
      rw [isBlank_of_mem_blanks h hc]
      nofun
  refine ⟨p.length, ps.map Utf8.encode, hspaces ▸ hpieces, fun line hline => ?_, ?_⟩
  · exact notMem_of_mem_pieces hnone line (hpieces ▸ List.mem_cons_of_mem _ hline)
  · rw [hpieces, List.flatMap_cons, List.append_eq_nil_iff] at hnothing
    exact hnothing.2

/-- The lines of a block up to its end are collected to the content in base64. -/
theorem blocksFrom_opens (h : Opens label content first body) (rest : List Bytes) :
    blocksFrom none ((first :: body).flatMap pieces ++ rest)
      = blocksFrom (some (Utf8.encode label, Base64.padded content)) rest := by
  obtain ⟨blanks, rfl, hblanks⟩ := h.begins
  obtain ⟨k, ps, hpieces, hplain, hnothing⟩ := exists_pieces_blanks hblanks
  have hdash : ∀ line ∈ ps ++ body.flatMap pieces, 45 ∉ line := by
    refine List.forall_mem_append.2 ⟨hplain, fun line hline => ?_⟩
    obtain ⟨part, hpart, hline⟩ := List.mem_flatMap.1 hline
    exact notMem_of_mem_pieces (h.visible hpart).1 line hline
  have hkept : (ps ++ body.flatMap pieces).flatMap kept = Base64.padded content := by
    rw [List.flatMap_append, hnothing, h.kept_body, List.nil_append]
  rw [List.flatMap_cons, pieces_append h.isLabel.notMem_beginLine hpieces, List.cons_append,
    List.cons_append, ← Utf8.encode_append, blocksFrom_begin h.isLabel, blocksFrom_body hdash,
    hkept, List.nil_append]

/-- A section is found with its own label. -/
theorem label_of_mem_section? {b : Block} (h : b ∈ section? label content) :
    b.label.text.toList = label := by
  obtain ⟨l, hl, rfl⟩ := List.mem_map.1 h
  have hfound : Label.all.find? (fun l => Utf8.bytes l.text == Utf8.encode label) = some l :=
    Option.mem_toList.1 hl
  have hbytes := List.find?_some hfound
  rw [beq_iff_eq] at hbytes
  have hascii : ∀ c ∈ l.text.toList, c.toNat < 0x80 := by
    have hall : l.text.toList.all (·.toNat < 0x80) = true := by cases l <;> rfl
    simpa using hall
  exact Utf8.eq_of_encode_eq hascii hbytes

/-- Where no part of a line begins with the mark, no piece of it begins a block. -/
theorem blocksFrom_parts {parts : List (List Char)} (h : ∀ part ∈ parts, ¬ beginMark <+: part)
    (rest : List Bytes) :
    blocksFrom none (parts.map Utf8.encode ++ rest) = blocksFrom none rest := by
  refine blocksFrom_outside (fun piece hpiece => ?_) rest
  obtain ⟨part, hpart, rfl⟩ := List.mem_map.1 hpiece
  rw [Utf8.encode_prefix_iff ascii_beginMark]
  exact h part hpart

/-- What stands in front of the block that is wanted is read to blocks with other labels. -/
theorem exists_blocksFrom_passed (h : Passed wanted before) :
    ∃ others : List Block, (∀ b ∈ others, b.label.text.toList ≠ wanted) ∧
      ∀ rest, blocksFrom none (before.flatMap pieces ++ rest)
        = (blocksFrom none rest).behind others := by
  induction h with
  | nil => exact ⟨[], List.forall_mem_nil _, fun _ => rfl⟩
  | @line line lines outside _ ih =>
    obtain ⟨others, hothers, hblocks⟩ := ih
    refine ⟨others, hothers, fun rest => ?_⟩
    rw [List.flatMap_cons, List.append_assoc, pieces, blocksFrom_parts outside.2, hblocks]
  | @block label content first last body lines opens other ends alone _ ih =>
    obtain ⟨others, hothers, hblocks⟩ := ih
    refine ⟨section? label content ++ others, ?_, fun rest => ?_⟩
    · intro b hb
      rcases List.mem_append.1 hb with hb | hb
      · rw [label_of_mem_section? hb]
        exact other
      · exact hothers b hb
    · obtain ⟨tail, rfl⟩ := ends
      obtain ⟨p, ps, hps, htail⟩ := exists_pieces_eq_cons tail
      have hpieces : pieces (endLine label ++ tail)
          = (Utf8.encode (endLine label) ++ Utf8.encode p) :: ps.map Utf8.encode :=
        pieces_append opens.isLabel.notMem_endLine.2 htail
      have hplain : ∀ part ∈ ps, ¬ beginMark <+: part := by
        rwa [Text.splitAll_append_of_notMem opens.isLabel.notMem_endLine.2 hps] at alone
      have hcontent := Base64.decodePadded?_padded content
      rw [List.flatMap_append, List.append_assoc, blocksFrom_opens opens, List.flatMap_cons,
        hpieces, List.cons_append, List.cons_append, blocksFrom_end hcontent, List.append_assoc,
        blocksFrom_parts hplain, hblocks, ← Blocks.behind_append]

/-- The blocks behind the end of a block, which takes the rest of its line along. -/
def blocksBehind (rest : List Char) : Blocks := blocksFrom none (fileLines (Utf8.encode rest)).tail

/-- The first block of a document is the first one with its label for the reader of files, which
    goes on behind it. -/
theorem exists_blocks_isDocument (h : IsDocument label content text rest) :
    ∃ others : List Block, (∀ b ∈ others, b.label.text.toList ≠ label) ∧
      blocks (Utf8.encode text)
        = (blocksBehind rest).behind (others ++ section? label content) := by
  obtain ⟨before, first, body, hbefore, hopens, hfree, rfl⟩ := h
  obtain ⟨others, hothers, hblocks⟩ := exists_blocksFrom_passed hbefore
  obtain ⟨p, ps, hps⟩ := List.exists_cons_of_ne_nil (fileLines_ne_nil (Utf8.encode rest))
  have hfront : Text.splitAll '\n' (Text.joinWith ['\n'] (before ++ first :: body))
      = before ++ first :: body := Text.isCut_iff.1 ⟨by simp, hfree, rfl⟩
  have hend : fileLines (Utf8.encode (endLine label ++ rest))
      = (Utf8.encode (endLine label) ++ p) :: ps := by
    rw [Utf8.encode_append]
    exact fileLines_append (isLineEnd_of_mem_encode hopens.isLabel.notMem_endLine.1
      hopens.isLabel.notMem_endLine.2) hps
  have hcontent := Base64.decodePadded?_padded content
  refine ⟨others, hothers, ?_⟩
  rw [Pem.blocks, fileLines_encode, Text.splitAll_append_cons, hfront, List.flatMap_append,
    ← fileLines_encode, hend, List.flatMap_append, List.append_assoc, hblocks,
    blocksFrom_opens hopens, blocksFrom_end hcontent, Blocks.behind_append, blocksBehind, hps]
  rfl

end Gatehouse.Pem
