import Gatehouse.Encoding.Pem
import Gatehouse.Proofs.Encoding.Base64

namespace Gatehouse.Pem

/-!
# The first block with a label

A text of lines may hold several blocks. The reader passes over those with other labels and stops
at the first one with the label that is wanted.

* `IsBlock`, `IsPreamble`, `Holds` — the lines of a block, the lines that may stand in front of the
  block that is wanted, and texts with such a block;
* `isSome_before?_iff`, `label?_beginLine` — the mark searched for, and the label in a line;
* `firstBlockFrom_isBlock`, `firstBlockFrom_isPreamble` — one block is read or passed over, and
  all that stands in front is passed over;
* `firstBlock_of_holds` — the content that is read.
-/

/-! ### Texts with blocks -/

/-- The line that begins a block. -/
def beginLine (label : List Char) : List Char := beginMark ++ label ++ dashes

/-- The line that ends a block. -/
def endLine (label : List Char) : List Char := endMark ++ label ++ dashes

/-- The lines of a block: the content in padded base64, cut into lines anywhere, between the lines
    that begin and end the block. Blanks at the ends of lines do not count, nor does what follows
    the end of the block on its line. -/
inductive IsBlock (label : List Char) (content : Bytes) : List (List Char) → Prop where
  | intro {first last : List Char} {body : List (List Char)}
      (begins : Text.trimEnd first = beginLine label)
      (written : body.flatMap Text.trimEnd = Utf8.ofAscii (Base64.padded content))
      (ends : endLine label <+: last) :
      IsBlock label content (first :: body ++ [last])

/-- Lines without a block of the label that is wanted: whole blocks with other labels, and lines
    that begin no block. A label reaches as far as its first dash. -/
inductive IsPreamble (wanted : List Char) : List (List Char) → Prop where
  | nil : IsPreamble wanted []
  | line {line : List Char} {lines : List (List Char)} (plain : ¬ beginMark <+: line)
      (rest : IsPreamble wanted lines) : IsPreamble wanted (line :: lines)
  | block {label : List Char} {content : Bytes} {block lines : List (List Char)}
      (isBlock : IsBlock label content block) (other : label.takeWhile (· != '-') ≠ wanted)
      (rest : IsPreamble wanted lines) : IsPreamble wanted (block ++ lines)

/-- The first block of the text with the label holds the content. Anything may follow it. -/
def Holds (label : List Char) (content : Bytes) (text : List Char) : Prop :=
  ∃ before block after, Text.IsCut '\n' text (before ++ block ++ after) ∧
    IsPreamble label before ∧ IsBlock label content block

variable {word cs l label wanted : List Char} {content : Bytes} {block before : List (List Char)}

/-! ### Marks and labels -/

/-- The characters searched for are found wherever they stand. -/
theorem isSome_before?_iff : (before? word cs).isSome = true ↔ word <:+: cs := by
  induction cs with
  | nil => cases word <;> simp [before?]
  | cons c cs ih =>
    rw [before?, List.infix_cons_iff, ← List.isPrefixOf_iff_prefix]
    by_cases hstarts : word.isPrefixOf (c :: cs) = true
    · simp [hstarts]
    · simp [hstarts, ih]

/-- What stands in front of them is found. -/
theorem eq_append_of_before? (h : before? word cs = some l) : ∃ rest, cs = l ++ (word ++ rest) := by
  induction cs generalizing l with
  | nil =>
    rw [before?] at h
    split at h
    · next hword =>
      obtain rfl := List.isEmpty_iff.1 hword
      obtain rfl := Option.some.inj h
      exact ⟨[], rfl⟩
    · cases h
  | cons c cs ih =>
    rw [before?] at h
    split at h
    · next hstarts =>
      obtain rfl := Option.some.inj h
      obtain ⟨rest, hrest⟩ := List.isPrefixOf_iff_prefix.1 hstarts
      exact ⟨rest, hrest.symm⟩
    · obtain ⟨front, hfront, rfl⟩ := Option.map_eq_some_iff.1 h
      obtain ⟨rest, rfl⟩ := ih hfront
      exact ⟨rest, rfl⟩

/-- The line that begins a block starts with the mark, and so does the one that ends it. -/
theorem startsWith_beginMark {line : List Char} (h : Text.trimEnd line = beginLine label) :
    beginMark <+: line := by
  refine List.IsPrefix.trans ?_ (Text.isPrefix_trimEnd line)
  rw [h, beginLine, List.append_assoc]
  exact List.prefix_append _ _

theorem startsWith_endMark {line : List Char} (h : endLine label <+: line) : endMark <+: line := by
  refine List.IsPrefix.trans ?_ h
  rw [endLine, List.append_assoc]
  exact List.prefix_append _ _

/-- A label without a dash is whole. -/
theorem takeWhile_eq_self_of_notMem (h : '-' ∉ l) : l.takeWhile (· != '-') = l := by
  rw [List.takeWhile_eq_self_iff]
  intro c hc
  rw [bne_iff_ne]
  rintro rfl
  exact h hc

/-- A label is not longer for the dashes behind it. -/
theorem takeWhile_append_dashes (l rest : List Char) :
    (l ++ (dashes ++ rest)).takeWhile (· != '-') = l.takeWhile (· != '-') := by
  induction l with
  | nil => rfl
  | cons c l ih =>
    rw [List.cons_append, List.takeWhile_cons, List.takeWhile_cons, ih]

/-- The label of a line that begins a block. -/
theorem label?_beginLine (label tail : List Char) :
    label? (beginLine label ++ tail) = some (label.takeWhile (· != '-')) := by
  have hdrop : (beginLine label ++ tail).drop beginMark.length = label ++ (dashes ++ tail) := by
    rw [beginLine, List.append_assoc, List.append_assoc, List.drop_left]
  have hfound : (before? dashes (label ++ (dashes ++ tail))).isSome = true :=
    isSome_before?_iff.2 ⟨label, tail, by simp⟩
  obtain ⟨front, hfront⟩ := Option.isSome_iff_exists.1 hfound
  obtain ⟨rest, hrest⟩ := eq_append_of_before? hfront
  -- The dashes that are found may stand within the label, but not in front of its first dash.
  rw [label?, hdrop, hfront, Option.map_some, ← takeWhile_append_dashes front rest, ← hrest,
    takeWhile_append_dashes]

/-! ### One block -/

/-- The lines of a body are collected. -/
theorem firstBlockFrom_body {body : List (List Char)} (hbody : ∀ line ∈ body, ¬ endMark <+: line)
    (text : List Char) (rest : List (List Char)) :
    firstBlockFrom wanted (some (label, text)) (body ++ rest)
      = firstBlockFrom wanted (some (label, text ++ body.flatMap Text.trimEnd)) rest := by
  induction body generalizing text with
  | nil => rw [List.nil_append, List.flatMap_nil, List.append_nil]
  | cons line body ih =>
    obtain ⟨hline, hbody⟩ := List.forall_mem_cons.1 hbody
    have hplain : ¬ endMark.isPrefixOf line = true := fun h =>
      hline (List.isPrefixOf_iff_prefix.1 h)
    rw [List.cons_append, firstBlockFrom, if_neg hplain, ih hbody, List.flatMap_cons,
      List.append_assoc]

/-- No line of a content ends a block. -/
theorem not_startsWith_endMark {body : List (List Char)}
    (h : body.flatMap Text.trimEnd = Utf8.ofAscii (Base64.padded content)) :
    ∀ line ∈ body, ¬ endMark <+: line := by
  rintro line hline ⟨rest, rfl⟩
  have hdash : '-' ∈ Text.trimEnd (endMark ++ rest) :=
    Text.mem_trimEnd (List.mem_append_left rest (List.mem_of_mem_head? rfl)) (by decide)
  have hmem : '-' ∈ Utf8.ofAscii (Base64.padded content) :=
    h ▸ List.mem_flatMap.2 ⟨_, hline, hdash⟩
  exact (Base64.visible_of_mem_ofAscii hmem).2 rfl

/-- A block is read if it has the label that is wanted, and else passed over. -/
theorem firstBlockFrom_isBlock (h : IsBlock label content block) (rest : List (List Char)) :
    firstBlockFrom wanted none (block ++ rest)
      = if label.takeWhile (· != '-') = wanted then .ok content
        else firstBlockFrom wanted none rest := by
  cases h with
  | @intro first last body begins written ends =>
    obtain ⟨tail, hfirst⟩ := Text.isPrefix_trimEnd first
    have hbegin : beginMark.isPrefixOf first = true :=
      List.isPrefixOf_iff_prefix.2 (startsWith_beginMark begins)
    have hlabel : label? first = some (label.takeWhile (· != '-')) := by
      rw [← hfirst, begins, label?_beginLine]
    have hend : endMark.isPrefixOf last = true :=
      List.isPrefixOf_iff_prefix.2 (startsWith_endMark ends)
    have hascii : ∀ b ∈ Base64.padded content, b.toNat < 0x80 :=
      Base64.toNat_lt_of_mem_append_pad content _
    have hcontent : Base64.decodePadded? (Utf8.encode (Utf8.ofAscii (Base64.padded content)))
        = some content := by
      rw [Utf8.encode_ofAscii hascii, Base64.decodePadded?_padded]
    rw [List.append_assoc, List.cons_append, firstBlockFrom, if_pos hbegin, hlabel]
    simp only
    rw [firstBlockFrom_body (not_startsWith_endMark written), List.nil_append, written,
      List.singleton_append, firstBlockFrom, if_pos hend, hcontent]

/-- What stands in front of the block that is wanted is passed over. -/
theorem firstBlockFrom_isPreamble (h : IsPreamble wanted before) (rest : List (List Char)) :
    firstBlockFrom wanted none (before ++ rest) = firstBlockFrom wanted none rest := by
  induction h with
  | nil => rfl
  | line plain _ ih =>
    have hplain : ¬ beginMark.isPrefixOf _ = true := fun h =>
      plain (List.isPrefixOf_iff_prefix.1 h)
    rw [List.cons_append, firstBlockFrom, if_neg hplain, ih]
  | block isBlock other _ ih =>
    rw [List.append_assoc, firstBlockFrom_isBlock isBlock, if_neg other, ih]

/-- The content of the first block with the label is read. -/
theorem firstBlock_of_holds {wanted : String} {text : List Char} (hlabel : '-' ∉ wanted.toList)
    (h : Holds wanted.toList content text) : firstBlock wanted text = .ok content := by
  obtain ⟨before, block, after, hcut, hbefore, hblock⟩ := h
  have hwhole := takeWhile_eq_self_of_notMem hlabel
  rw [firstBlock, Text.isCut_iff.1 hcut, List.append_assoc, firstBlockFrom_isPreamble hbefore,
    firstBlockFrom_isBlock hblock, if_pos hwhole]

/-- A text with a block has the mark of a block in it. -/
theorem Holds.infix {text : List Char} (h : Holds label content text) : beginMark <:+: text := by
  obtain ⟨before, block, after, hcut, -, hblock⟩ := h
  cases hblock with
  | @intro first last body begins written ends =>
    refine (startsWith_beginMark begins).isInfix.trans ?_
    rw [← hcut.joined]
    exact Text.infix_joinWith (by simp)

end Gatehouse.Pem
