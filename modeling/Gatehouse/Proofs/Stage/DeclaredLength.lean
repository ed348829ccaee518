import Gatehouse.Proofs.Server.Framing
import Gatehouse.Proofs.Text.Ascii
import Gatehouse.Proofs.Text.Splitting
import Mathlib.Data.Nat.Digits.Defs

namespace Gatehouse.Stage

open Http

/-!
# Lengths that a handler declares

Where the length of a body is not known, the framing stage looks at the lengths its handler set. It
reads the first of them, and keeps all or none.

* `IsNumeral` — decimal digits that denote a number; `Declares` — how the stage reads a value:
  a numeral between blanks, which a plus sign may stand in front of;
* `readLength?_eq_some_iff`, `lengthOf?_eq_some_iff` — what is read of a text, and of a value;
* `FirstFits`, `getAll_contentLength_frame` — which lengths of a response are kept;
* `DropsContradictions`, `not_dropsContradictions` — that no value is left which contradicts the
  body is not what the stage does;
* `Reconciled`, `framing_reconciles` — what it does, for any values.
-/

/-! ### Numerals -/

/-- The bytes are decimal digits, at least one, and denote the number. -/
structure IsNumeral (value : Bytes) (n : Nat) : Prop where
  nonempty : value ≠ []
  digits : ∀ b ∈ value, 48 ≤ b.toNat ∧ b.toNat ≤ 57
  denotes : Nat.ofDigits 10 (value.reverse.map fun b => b.toNat - 48) = n

/-- The value is a numeral of the number, with or without a plus sign, between blanks. -/
inductive Declares (n : Nat) : Bytes → Prop
  | intro {before sign digits after : Bytes} (leading : ∀ b ∈ before, b = 9 ∨ b = 32)
      (signed : sign = [] ∨ sign = [43]) (numeral : IsNumeral digits n)
      (trailing : ∀ b ∈ after, b = 9 ∨ b = 32) : Declares n (before ++ (sign ++ digits) ++ after)

/-- The character of a byte that is read as text. -/
def charOf (b : UInt8) : Char := Char.ofNat b.toNat

theorem toNat_charOf (b : UInt8) : (charOf b).toNat = b.toNat := Utf8.toNat_ofNat_toNat b

theorem charOf_eq_iff {b c : UInt8} : charOf b = charOf c ↔ b = c := by
  rw [← Char.toNat_inj, toNat_charOf, toNat_charOf, UInt8.toNat_inj]

theorem isDigit_charOf {b : UInt8} :
    (charOf b).isDigit = true ↔ 48 ≤ b.toNat ∧ b.toNat ≤ 57 := by
  rw [← toNat_charOf b, Char.isDigit, Bool.and_eq_true, decide_eq_true_eq, decide_eq_true_eq]
  rfl

/-- The blanks among the bytes that are read as text are tab and space. -/
theorem isBlank_charOf {b : UInt8} (h : isTextByte b = true) :
    Text.isBlank (charOf b) = true ↔ b = 9 ∨ b = 32 := by
  simp only [isTextByte, Bool.or_eq_true, beq_iff_eq, Bool.and_eq_true, decide_eq_true_eq,
    ← UInt8.toNat_inj] at h ⊢
  simp only [Text.isBlank, toNat_charOf, Bool.or_eq_true, Bool.and_eq_true, beq_iff_eq,
    decide_eq_true_eq]
  have h9 : (9 : UInt8).toNat = 9 := rfl
  have h32 : (32 : UInt8).toNat = 32 := rfl
  omega

/-- Digits are read from the left, each time the number so far is moved up by one place. -/
theorem foldl_digits_eq (value : Bytes) :
    (value.map charOf).foldl (fun n c => n * 10 + (c.toNat - 48)) 0
      = Nat.ofDigits 10 (value.reverse.map fun b => b.toNat - 48) := by
  -- The lowest digit comes last in the text and first for `Nat.ofDigits`.
  have hstep : (fun (n : Nat) (b : UInt8) => n * 10 + ((charOf b).toNat - 48))
      = fun n b => b.toNat - 48 + 10 * n := by
    funext n b
    rw [toNat_charOf]
    omega
  rw [Nat.ofDigits_eq_foldr, List.foldr_map, List.foldr_reverse, List.foldl_map, hstep]
  rfl

/-- Reads a length that has no sign. -/
def readDigits? (digits : List Char) : Option Nat :=
  if digits.isEmpty || !digits.all Char.isDigit then none
  else
    let n := digits.foldl (fun n c => n * 10 + (c.toNat - 48)) 0
    if n ≤ maxLength then some n else none

theorem readLength?_plus (digits : List Char) : readLength? ('+' :: digits) = readDigits? digits :=
  rfl

theorem readLength?_of_head_ne {text : List Char} (h : text.head? ≠ some '+') :
    readLength? text = readDigits? text := by
  rw [readLength?.eq_def]
  split
  · next rest => exact absurd rfl h
  · rfl

theorem readDigits?_eq_some_iff {value : Bytes} {n : Nat} :
    readDigits? (value.map charOf) = some n ↔ IsNumeral value n ∧ n ≤ maxLength := by
  have hall : (value.map charOf).all Char.isDigit = true ↔
      ∀ b ∈ value, 48 ≤ b.toNat ∧ b.toNat ≤ 57 := by
    simp only [List.all_eq_true, List.mem_map, forall_exists_index, and_imp,
      forall_apply_eq_imp_iff₂, isDigit_charOf]
  simp only [readDigits?, foldl_digits_eq]
  split
  · next hno =>
    simp only [Bool.or_eq_true, List.isEmpty_iff, List.map_eq_nil_iff, Bool.not_eq_true',
      ← Bool.not_eq_true, hall] at hno
    refine iff_of_false nofun fun ⟨hnumeral, _⟩ => ?_
    exact hno.elim hnumeral.nonempty fun hdigits => hdigits hnumeral.digits
  · next hyes =>
    simp only [Bool.or_eq_true, List.isEmpty_iff, List.map_eq_nil_iff, Bool.not_eq_true',
      ← Bool.not_eq_true, hall, not_or, not_not] at hyes
    rw [Option.ite_none_right_eq_some, Option.some.injEq]
    constructor
    · rintro ⟨hle, rfl⟩
      exact ⟨⟨hyes.1, hyes.2, rfl⟩, hle⟩
    · rintro ⟨⟨-, -, rfl⟩, hle⟩
      exact ⟨hle, rfl⟩

/-- The texts that a length is read from are numerals with or without a plus sign, of the numbers
    that are not too large. -/
theorem readLength?_eq_some_iff {value : Bytes} {n : Nat} :
    readLength? (value.map charOf) = some n ↔
      (∃ sign digits, value = sign ++ digits ∧ (sign = [] ∨ sign = [43]) ∧ IsNumeral digits n) ∧
        n ≤ maxLength := by
  have hplus : '+' = charOf 43 := rfl
  by_cases hsign : value.head? = some 43
  · obtain ⟨rest, rfl⟩ := List.head?_eq_some_iff.1 hsign
    rw [List.map_cons, ← hplus, readLength?_plus, readDigits?_eq_some_iff]
    refine and_congr_left fun _ => ⟨fun hrest => ⟨[43], rest, rfl, .inr rfl, hrest⟩, ?_⟩
    rintro ⟨sign, digits, hvalue, rfl | rfl, hnumeral⟩
    -- A plus sign is no digit.
    · obtain rfl := hvalue
      exact absurd (hnumeral.digits 43 List.mem_cons_self) (by decide)
    · obtain rfl := List.tail_eq_of_cons_eq hvalue
      exact hnumeral
  · have hhead : (value.map charOf).head? ≠ some '+' := by
      rw [List.head?_map, hplus, ne_eq, Option.map_eq_some_iff]
      rintro ⟨b, hb, hsame⟩
      rw [charOf_eq_iff.1 hsame] at hb
      exact hsign hb
    rw [readLength?_of_head_ne hhead, readDigits?_eq_some_iff]
    refine and_congr_left fun _ => ⟨fun hvalue => ⟨[], value, rfl, .inl rfl, hvalue⟩, ?_⟩
    rintro ⟨sign, digits, rfl, rfl | rfl, hnumeral⟩
    · exact hnumeral
    · exact absurd rfl hsign

/-- Every byte of a value that declares a length is readable as text. -/
theorem Declares.readable {value : Bytes} {n : Nat} (h : Declares n value) :
    ∀ b ∈ value, isTextByte b = true := by
  have hblank : ∀ b : UInt8, b = 9 ∨ b = 32 → isTextByte b = true := by
    rintro b (rfl | rfl) <;> rfl
  obtain ⟨leading, signed, numeral, trailing⟩ := h
  intro b hb
  simp only [List.mem_append] at hb
  rcases hb with (hb | hb | hb) | hb
  · exact hblank b (leading b hb)
  · rcases signed with rfl | rfl
    · exact absurd hb List.not_mem_nil
    · rw [List.mem_singleton.1 hb]
      rfl
  · have hdigit := numeral.digits b hb
    simp only [isTextByte, Bool.or_eq_true, Bool.and_eq_true, decide_eq_true_eq]
    omega
  · exact hblank b (trailing b hb)

/-- A signed or unsigned numeral has no blank in it. -/
theorem trim_signed {sign digits : Bytes} {n : Nat} (hsign : sign = [] ∨ sign = [43])
    (h : IsNumeral digits n) :
    Text.trim ((sign ++ digits).map charOf) = (sign ++ digits).map charOf := by
  have hsolid : ∀ c ∈ (sign ++ digits).map charOf, Text.isBlank c = false := by
    intro c hc
    obtain ⟨b, hb, rfl⟩ := List.mem_map.1 hc
    have hrange : 43 ≤ b.toNat ∧ b.toNat ≤ 57 := by
      rcases List.mem_append.1 hb with hb | hb
      · rcases hsign with rfl | rfl
        · exact absurd hb List.not_mem_nil
        · rw [List.mem_singleton.1 hb]
          decide
      · have hdigit := h.digits b hb
        omega
    have htext : isTextByte b = true := by
      simp only [isTextByte, Bool.or_eq_true, Bool.and_eq_true, decide_eq_true_eq]
      omega
    rw [← Bool.not_eq_true, isBlank_charOf htext, ← UInt8.toNat_inj, ← UInt8.toNat_inj]
    have h9 : (9 : UInt8).toNat = 9 := rfl
    have h32 : (32 : UInt8).toNat = 32 := rfl
    omega
  exact Text.trim_eq_self_iff.2 fun hne =>
    ⟨hsolid _ (List.head_mem hne), hsolid _ (List.getLast_mem hne)⟩

/-- The length that a value is read to declare. -/
theorem lengthOf?_eq_some_iff {value : Bytes} {n : Nat} :
    ((valueText? value).bind fun text => readLength? (Text.trim text)) = some n ↔
      Declares n value ∧ n ≤ maxLength := by
  have hread : valueText? value = if value.all isTextByte then some (value.map charOf) else none :=
    rfl
  rw [hread, Option.bind_eq_some_iff]
  constructor
  · rintro ⟨text, htext, hlength⟩
    obtain ⟨hall, heq⟩ := Option.ite_none_right_eq_some.1 htext
    obtain rfl := Option.some.inj heq
    -- The blanks around the text are those of the value, and so is what they stand around.
    obtain ⟨before, after, hcut, hbefore, hafter⟩ :=
      Text.exists_blanks_around_trim (value.map charOf)
    obtain ⟨front, back, rfl, hfront, rfl⟩ := List.map_eq_append_iff.1 hcut
    obtain ⟨leading, core, rfl, rfl, hcore⟩ := List.map_eq_append_iff.1 hfront
    rw [← hcore, readLength?_eq_some_iff] at hlength
    obtain ⟨⟨sign, digits, rfl, hsign, hnumeral⟩, hle⟩ := hlength
    have hblank : ∀ b ∈ leading ++ (sign ++ digits) ++ back,
        Text.isBlank (charOf b) = true → b = 9 ∨ b = 32 := fun b hb =>
      (isBlank_charOf (List.all_eq_true.1 hall b hb)).1
    refine ⟨.intro (fun b hb => ?_) hsign hnumeral (fun b hb => ?_), hle⟩
    · exact hblank b (List.mem_append_left _ (List.mem_append_left _ hb))
        (hbefore _ (List.mem_map_of_mem hb))
    · exact hblank b (List.mem_append_right _ hb) (hafter _ (List.mem_map_of_mem hb))
  -- Trimming takes off the blanks again, and leaves the sign and the digits.
  · rintro ⟨hvalue, hle⟩
    refine ⟨value.map charOf, if_pos (List.all_eq_true.2 hvalue.readable), ?_⟩
    have htext := hvalue.readable
    obtain @⟨before, sign, digits, after, leading, signed, numeral, trailing⟩ := hvalue
    have hne : (sign ++ digits).map charOf ≠ [] := by
      rw [ne_eq, List.map_eq_nil_iff, List.append_eq_nil_iff]
      exact fun hnil => numeral.nonempty hnil.2
    have hblank : ∀ blanks : Bytes, (∀ b ∈ blanks, b = 9 ∨ b = 32) →
        ∀ c ∈ blanks.map charOf, Text.isBlank c = true := by
      intro blanks hblanks c hc
      obtain ⟨b, hb, rfl⟩ := List.mem_map.1 hc
      rcases hblanks b hb with rfl | rfl <;> rfl
    rw [List.map_append, List.map_append, Text.trim_append_append (trim_signed signed numeral) hne
      (hblank before leading) (hblank after trailing), readLength?_eq_some_iff]
    exact ⟨⟨sign, digits, rfl, signed, numeral⟩, hle⟩

/-! ### The lengths of a response -/

/-- A body with such a hint may have this length. -/
def Within (hint : SizeHint) (n : Nat) : Prop :=
  hint.lower ≤ n ∧ ∀ upper, hint.upper = some upper → n ≤ upper

theorem contradicts_eq_false_iff {hint : SizeHint} {n : Nat} :
    contradicts hint n = false ↔ Within hint n := by
  rw [contradicts, Within, Bool.or_eq_false_iff, decide_eq_false_iff_not, Nat.not_lt]
  refine and_congr_right fun _ => ?_
  cases hint.upper with
  | none => simp
  | some upper => simp

/-- The first of some lengths can be read, and a body with such a hint may have it. -/
def FirstFits (hint : SizeHint) (lengths : List Bytes) : Prop :=
  ∃ first n, lengths.head? = some first ∧ Declares n first ∧ n ≤ maxLength ∧ Within hint n

/-- Where the length of a body is not known, the lengths of its response are kept if the first of
    them fits, and dropped otherwise. -/
theorem getAll_contentLength_frame {r : Response} (hstatus : ¬ Server.isBodiless r.status)
    (hhint : r.body.hint.known? = none) :
    (FirstFits r.body.hint (r.headers.getAll .contentLength) →
      (frame false r).headers.getAll .contentLength = r.headers.getAll .contentLength) ∧
    (¬ FirstFits r.body.hint (r.headers.getAll .contentLength) →
      (frame false r).headers.getAll .contentLength = []) := by
  have hother : FieldName.transferEncoding ≠ FieldName.contentLength := by decide
  have hsame : (r.headers.remove .transferEncoding).getAll .contentLength
      = r.headers.getAll .contentLength := Headers.getAll_remove_of_ne _ hother
  -- The length is read when the transfer coding is removed already, which leaves the lengths alone.
  have hdeclared : ∀ n, declaredLength? (r.headers.remove .transferEncoding) = some n ↔
      ∃ first, (r.headers.getAll .contentLength).head? = some first ∧
        Declares n first ∧ n ≤ maxLength := by
    intro n
    rw [declaredLength?, Headers.first?, hsame, Option.bind_assoc, Option.bind_eq_some_iff]
    simp only [lengthOf?_eq_some_iff]
  simp only [frame, framedHeaders, hhint]
  rw [if_neg (fun h => hstatus ((Server.isBodiless_iff r.status).1 h)), if_neg Bool.false_ne_true]
  constructor
  · rintro ⟨first, n, hfirst, hvalue, hle, hwithin⟩
    simp only [(hdeclared n).2 ⟨first, hfirst, hvalue, hle⟩, contradicts_eq_false_iff.2 hwithin,
      Bool.false_eq_true, if_false, hsame]
  · intro hnot
    cases hread : declaredLength? (r.headers.remove .transferEncoding) with
    | none => exact Headers.getAll_remove_self _ _
    | some n =>
      obtain ⟨first, hfirst, hvalue, hle⟩ := (hdeclared n).1 hread
      have hout : contradicts r.body.hint n = true := by
        rw [← Bool.not_eq_false, contradicts_eq_false_iff]
        exact fun hwithin => hnot ⟨first, n, hfirst, hvalue, hle, hwithin⟩
      simp only [hout, if_true]
      exact Headers.getAll_remove_self _ _

/-! ### What is left of the lengths of a handler -/

/-- Every length of the response is a numeral, of a number that the body may have for its length. -/
def LengthsFit (r : Response) : Prop :=
  ∀ value ∈ r.headers.getAll .contentLength, ∃ n, IsNumeral value n ∧ Within r.body.hint n

/-- Where the length of the body is not known, every length that the stage leaves on a response
    fits, whatever its handler set. -/
def DropsContradictions : Prop :=
  ∀ (inner : Handler) (request : Request) (response : Response), request.method ≠ .head →
    (inner request).outcome = .answered response → ¬ Server.isBodiless response.status →
    response.body.hint.known? = none →
    ∃ framed, (framing inner request).outcome = .answered framed ∧
      framed.body = response.body ∧ LengthsFit framed

/-- The stage frames the response of its inner handler. -/
theorem outcome_framing_of_answered {inner : Handler} {request : Request} {response : Response}
    (hmethod : request.method ≠ .head) (hanswer : (inner request).outcome = .answered response) :
    (framing inner request).outcome = .answered (frame false response) := by
  have hhead : (request.method == .head) = false := beq_eq_false_iff_ne.2 hmethod
  simp only [framing, Run.mapResponse, hanswer, hhead]

/-- A response with a body of at most ten bytes, to which a length of 5 was added, and then one of
    500. -/
def twoLengths : Response :=
  { Response.ofBody ⟨[], ⟨0, some 10⟩, none⟩ with
    headers := (Headers.empty.append .contentLength (Utf8.bytes "5")).append .contentLength
      (Utf8.bytes "500") }

theorem not_isBodiless_twoLengths : ¬ Server.isBodiless twoLengths.status :=
  fun h => absurd ((Server.isBodiless_iff _).2 h) (by decide)

theorem getAll_contentLength_twoLengths :
    twoLengths.headers.getAll .contentLength = [[53], [53, 48, 48]] := by
  decide

/-- The first length fits. -/
theorem firstFits_twoLengths :
    FirstFits twoLengths.body.hint (twoLengths.headers.getAll .contentLength) := by
  have hnumeral : IsNumeral [53] 5 := by
    refine ⟨nofun, fun b hb => ?_, by decide⟩
    rw [List.mem_singleton.1 hb]
    decide
  have hwithin : Within twoLengths.body.hint 5 :=
    contradicts_eq_false_iff.1 (by decide)
  have hdeclares : Declares 5 ([] ++ ([] ++ [53]) ++ []) :=
    .intro nofun (.inl rfl) hnumeral nofun
  exact ⟨[53], 5, by rw [getAll_contentLength_twoLengths]; rfl, hdeclares, by decide, hwithin⟩

/-- Only the first length is looked at, so that one of 500 is left on a body of at most ten bytes.
    -/
theorem not_dropsContradictions : ¬ DropsContradictions := by
  intro h
  let inner : Handler := fun _ => .answer twoLengths
  let request : Request := .ofClient .get .root .http11 .empty .empty
  have hmethod : request.method ≠ .head := by decide
  have hanswer : (inner request).outcome = .answered twoLengths := rfl
  obtain ⟨framed, houtcome, -, hfit⟩ :=
    h inner request twoLengths hmethod hanswer not_isBodiless_twoLengths rfl
  have hframed := outcome_framing_of_answered hmethod hanswer
  obtain rfl : frame false twoLengths = framed := Outcome.answered.inj (hframed.symm.trans houtcome)
  have hkept := (getAll_contentLength_frame not_isBodiless_twoLengths rfl).1 firstFits_twoLengths
  rw [LengthsFit, hkept, getAll_contentLength_twoLengths] at hfit
  obtain ⟨n, hnumeral, hwithin⟩ := hfit [53, 48, 48] (by decide)
  have hn : n = 500 := by rw [← hnumeral.denotes]; decide
  have hle : n ≤ 10 := hwithin.2 10 rfl
  omega

/-- What becomes of a response whose body is of unknown length, and of the lengths it has. -/
structure Reconciled (response framed : Response) : Prop where
  body : framed.body = response.body
  /-- When the first length fits, all of them stay. -/
  kept : FirstFits response.body.hint (response.headers.getAll .contentLength) →
    framed.headers.getAll .contentLength = response.headers.getAll .contentLength
  /-- When it does not, none of them stays. -/
  dropped : ¬ FirstFits response.body.hint (response.headers.getAll .contentLength) →
    framed.headers.getAll .contentLength = []
  /-- When they are all the same, without a sign or a blank, those that stay fit. -/
  fit : ∀ value, (∀ length ∈ response.headers.getAll .contentLength, length = value) →
    (∀ b ∈ value, b ≠ 9 ∧ b ≠ 32 ∧ b ≠ 43) → LengthsFit framed

/-- A value without a sign or a blank is read as the numeral that it is. -/
theorem Declares.isNumeral {value : Bytes} {n : Nat} (h : Declares n value)
    (hplain : ∀ b ∈ value, b ≠ 9 ∧ b ≠ 32 ∧ b ≠ 43) : IsNumeral value n := by
  obtain @⟨before, sign, digits, after, leading, signed, numeral, trailing⟩ := h
  have hnone : ∀ blanks : Bytes, (∀ b ∈ blanks, b = 9 ∨ b = 32) →
      (∀ b ∈ blanks, b ≠ 9 ∧ b ≠ 32 ∧ b ≠ 43) → blanks = [] := by
    refine fun blanks hblank hsolid => List.eq_nil_iff_forall_not_mem.2 fun b hb => ?_
    exact (hblank b hb).elim (hsolid b hb).1 (hsolid b hb).2.1
  have hbefore : before = [] :=
    hnone before leading fun b hb => hplain b (List.mem_append_left _ (List.mem_append_left _ hb))
  have hafter : after = [] := hnone after trailing fun b hb => hplain b (List.mem_append_right _ hb)
  subst hbefore hafter
  rcases signed with rfl | rfl
  · rwa [List.nil_append, List.nil_append, List.append_nil]
  · exact absurd rfl (hplain 43 (by simp)).2.2

/-- Where the length of the body is not known, the lengths that a handler set are kept or dropped
    together, as the first of them fits the body or not. -/
theorem framing_reconciles {inner : Handler} {request : Request} {response : Response}
    (hmethod : request.method ≠ .head) (hanswer : (inner request).outcome = .answered response)
    (hstatus : ¬ Server.isBodiless response.status) (hhint : response.body.hint.known? = none) :
    ∃ framed, (framing inner request).outcome = .answered framed ∧ Reconciled response framed := by
  obtain ⟨hkept, hdropped⟩ := getAll_contentLength_frame hstatus hhint
  refine ⟨frame false response, outcome_framing_of_answered hmethod hanswer, rfl, hkept, hdropped,
    fun value hsame hplain length hlength => ?_⟩
  by_cases hfirst : FirstFits response.body.hint (response.headers.getAll .contentLength)
  · rw [hkept hfirst] at hlength
    obtain ⟨first, n, hhead, hdeclares, -, hwithin⟩ := hfirst
    obtain rfl := hsame length hlength
    obtain rfl := hsame first (List.mem_of_mem_head? hhead)
    exact ⟨n, hdeclares.isNumeral hplain, hwithin⟩
  · rw [hdropped hfirst] at hlength
    exact absurd hlength List.not_mem_nil

/-- Both lengths stay, since the first of them fits. -/
theorem framing_reconciles_twoLengths :
    ∃ framed, (framing (fun _ => .answer twoLengths)
        (.ofClient .get .root .http11 .empty .empty)).outcome = .answered framed ∧
      framed.headers.getAll .contentLength = [[53], [53, 48, 48]] := by
  let inner : Handler := fun _ => .answer twoLengths
  let request : Request := .ofClient .get .root .http11 .empty .empty
  have hmethod : request.method ≠ .head := by decide
  have hanswer : (inner request).outcome = .answered twoLengths := rfl
  obtain ⟨framed, houtcome, hreconciled⟩ :=
    framing_reconciles hmethod hanswer not_isBodiless_twoLengths rfl
  refine ⟨framed, houtcome, ?_⟩
  rw [hreconciled.kept firstFits_twoLengths, getAll_contentLength_twoLengths]

end Gatehouse.Stage
