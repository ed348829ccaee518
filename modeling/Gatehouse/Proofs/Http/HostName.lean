import Gatehouse.Http.Message
import Gatehouse.Proofs.Text.Ascii
import Gatehouse.Proofs.Text.Splitting

namespace Gatehouse.Http

open Utf8 (utf8EncodeChar_of_lt toNat_ofNat_of_lt exists_head_utf8EncodeChar)

/-!
# Host names in header fields

What a `Host` value says about the host that is meant. A name is written as it is; what is read back
is without the blanks around it, without a port and in lower case.

* `isTextChar`, `valueText?_encode` — the texts that can be read back from a field value;
* `PortAfter`, `stripPort_of_portAfter`, `stripPort_eq_self_iff` — the texts that end in a port, and
  the texts that nothing is cut off from;
* `HostIn`, `hostIn_iff`, `hostName?_of_hostIn` — the host that a text says is the one that is read;
* `IsPlainName`, `IsPlainName.hostIn` — the names that are read back as they are.
-/

/-! ### Texts as field values -/

/-- Visible ASCII, space and tab. -/
def isTextChar (c : Char) : Bool := c == '\t' || (0x20 ≤ c.toNat && c.toNat < 0x7F)

variable {c : Char} {cs : List Char}

theorem toNat_lt_of_isTextChar (h : isTextChar c = true) : c.toNat < 0x7F := by
  simp only [isTextChar, Bool.or_eq_true, beq_iff_eq, Bool.and_eq_true, decide_eq_true_eq] at h
  rcases h with rfl | ⟨-, h⟩
  · decide
  · exact h

/-- The bytes of a character are readable as text when the character is. -/
theorem all_isTextByte_utf8EncodeChar (c : Char) :
    (String.utf8EncodeChar c).all isTextByte = isTextChar c := by
  by_cases hc : c.toNat < 0x80
  · have htab : UInt8.ofNat c.toNat = 9 ↔ c = '\t' := by
      rw [← UInt8.toNat_inj, toNat_ofNat_of_lt hc, ← Char.toNat_inj]
      rfl
    rw [utf8EncodeChar_of_lt hc, List.all_cons, List.all_nil, Bool.and_true, isTextByte, isTextChar,
      toNat_ofNat_of_lt hc, Bool.eq_iff_iff]
    simp only [Bool.or_eq_true, beq_iff_eq, htab]
  · obtain ⟨b, rest, hbytes, hb⟩ := exists_head_utf8EncodeChar (Nat.le_of_not_lt hc)
    have hchar : isTextChar c = false :=
      Bool.eq_false_iff.2 fun h => hc (Nat.lt_succ_of_lt (toNat_lt_of_isTextChar h))
    have hbyte : isTextByte b = false := by
      have hne : b ≠ 9 := by
        rintro rfl
        exact absurd hb (by decide)
      simp only [isTextByte, Bool.or_eq_false_iff, beq_eq_false_iff_ne, Bool.and_eq_false_iff,
        decide_eq_false_iff_not]
      exact ⟨hne, .inr (by omega)⟩
    rw [hbytes, List.all_cons, hbyte, hchar, Bool.false_and]

/-- Of the texts written as field values, those of visible ASCII, spaces and tabs are read back. -/
theorem valueText?_encode (cs : List Char) :
    valueText? (Utf8.encode cs) = if cs.all isTextChar then some cs else none := by
  have htext : (Utf8.encode cs).all isTextByte = cs.all isTextChar := by
    rw [Utf8.encode, List.all_flatMap]
    simp only [all_isTextByte_utf8EncodeChar]
  rw [valueText?, htext]
  by_cases h : cs.all isTextChar = true
  · rw [if_pos h, if_pos h]
    refine congrArg some ?_
    clear htext
    induction cs with
    | nil => rfl
    | cons c cs ih =>
      obtain ⟨hfirst, hrest⟩ : isTextChar c = true ∧ cs.all isTextChar = true := by
        simpa only [List.all_cons, Bool.and_eq_true] using h
      have hc : c.toNat < 0x80 := Nat.lt_succ_of_lt (toNat_lt_of_isTextChar hfirst)
      rw [Utf8.encode_cons, utf8EncodeChar_of_lt hc, List.map_append, ih hrest,
        List.map_singleton, toNat_ofNat_of_lt hc, Char.ofNat_toNat]
      rfl
  · rw [if_neg h, if_neg h]

/-! ### Ports -/

/-- The text is a host and a port behind it: a bracketed address and whatever follows the bracket,
    or a name without colons, a colon and digits. -/
inductive PortAfter (host : List Char) : List Char → Prop where
  | bracketed {inside rest : List Char} (address : host = '[' :: inside ++ [']'])
      (closes : ']' ∉ inside) (more : rest ≠ []) : PortAfter host (host ++ rest)
  | named {port : List Char} (name : host.head? ≠ some '[') (single : ':' ∉ host)
      (digits : ∀ d ∈ port, d.isDigit = true) : PortAfter host (host ++ ':' :: port)

/-- The host of a port is not the whole text. -/
theorem PortAfter.ne {host : List Char} (h : PortAfter host cs) : host ≠ cs := by
  cases h with
  | bracketed address closes more => simpa using more
  | named name single digits => simp

/-- What stands before the port is what is left without it. -/
theorem stripPort_of_portAfter {host : List Char} (h : PortAfter host cs) :
    stripPort cs = host := by
  cases h with
  | @bracketed inside rest address closes more =>
    have hsplit : Text.splitOnce ']' (host ++ rest) = some ('[' :: inside, rest) := by
      refine Text.splitOnce_eq_some_iff.2 ⟨by rw [address]; simp, ?_⟩
      rw [List.mem_cons, not_or]
      exact ⟨by decide, closes⟩
    have hopens : (host ++ rest).head? = some '[' := by rw [address]; rfl
    rw [stripPort, if_pos hopens, hsplit]
    exact address.symm
  | @named port name single digits =>
    have hsplit : Text.splitLast ':' (host ++ ':' :: port) = some (host, port) :=
      Text.splitLast_eq_some_iff.2 ⟨rfl, fun hcolon => absurd (digits ':' hcolon) (by decide)⟩
    have hopens : ¬ (host ++ ':' :: port).head? = some '[' := by
      cases host with
      | nil => exact fun hhead => absurd (Option.some.inj hhead) (by decide)
      | cons c host => exact name
    have hport : (!host.contains ':' && port.all Char.isDigit) = true := by
      rw [List.all_eq_true.2 digits]
      simpa using single
    rw [stripPort, if_neg hopens, hsplit]
    exact if_pos hport

/-- Nothing is cut off from a text exactly when there is no port. -/
theorem stripPort_eq_self_iff : stripPort cs = cs ↔ ∀ host, ¬ PortAfter host cs := by
  refine ⟨fun h host hport => hport.ne ((stripPort_of_portAfter hport).symm.trans h), fun h => ?_⟩
  rw [stripPort]
  split
  · next hopens =>
    split
    · next inside rest hsplit =>
      obtain ⟨rfl, hcloses⟩ := Text.splitOnce_eq_some_iff.1 hsplit
      -- What follows the bracket would be cut off, so nothing does.
      by_cases hmore : rest = []
      · rw [hmore]
      · cases inside with
        | nil => exact absurd (Option.some.inj hopens) (by decide)
        | cons c inside =>
          obtain rfl : c = '[' := Option.some.inj hopens
          have hport : PortAfter ('[' :: inside ++ [']']) ('[' :: inside ++ [']'] ++ rest) :=
            .bracketed rfl (fun hmem => hcloses (List.mem_cons_of_mem _ hmem)) hmore
          rw [List.append_assoc] at hport
          exact absurd hport (h _)
    · rfl
  · next hopens =>
    split
    · next name port hsplit =>
      obtain ⟨rfl, -⟩ := Text.splitLast_eq_some_iff.1 hsplit
      split
      · next hport =>
        rw [Bool.and_eq_true, List.all_eq_true] at hport
        have hname : name.head? ≠ some '[' := by
          cases name with
          | nil => exact nofun
          | cons c name => exact hopens
        exact absurd (.named hname (by simpa using hport.1) hport.2) (h name)
      · rfl
    · rfl

/-! ### Names -/

/-- What a text says beside the host is a port behind it, when there is one, and the blanks around
    both. -/
inductive HostIn (text : List Char) : List Char → Prop where
  | portless (bare : ∀ host, ¬ PortAfter host (Text.trim text)) : HostIn text (Text.trim text)
  | ported {host : List Char} (port : PortAfter host (Text.trim text)) : HostIn text host

/-- Every text says one host. -/
theorem hostIn_iff {text host : List Char} :
    HostIn text host ↔ host = stripPort (Text.trim text) := by
  constructor
  · rintro (bare | port)
    · exact (stripPort_eq_self_iff.2 bare).symm
    · exact (stripPort_of_portAfter port).symm
  · rintro rfl
    by_cases h : ∃ host, PortAfter host (Text.trim text)
    · obtain ⟨host, hport⟩ := h
      rw [stripPort_of_portAfter hport]
      exact .ported hport
    · have hbare := not_exists.1 h
      rw [stripPort_eq_self_iff.2 hbare]
      exact .portless hbare

/-- The host name of a request for a host: in lower case, and none where there is nothing. -/
def named? (host : List Char) : Option String :=
  if host = [] then none else some (String.ofList (Text.lower host))

/-- The host that a text says is the one that is read. -/
theorem hostName?_of_hostIn {text host : List Char} (h : HostIn text host) :
    hostName? text = named? host := by
  rw [hostName?, ← hostIn_iff.1 h, named?]
  simp only [List.isEmpty_iff]

/-- The name is of visible ASCII, spaces and tabs, has no blank at either end, and no port. -/
structure IsPlainName (name : List Char) : Prop where
  text : ∀ c ∈ name, isTextChar c = true
  trimmed : ∀ h : name ≠ [],
    Text.isBlank (name.head h) = false ∧ Text.isBlank (name.getLast h) = false
  portless : ∀ host, ¬ PortAfter host name

theorem isPlainName_iff (name : List Char) :
    IsPlainName name ↔
      name.all isTextChar = true ∧ Text.trim name = name ∧ stripPort name = name := by
  rw [List.all_eq_true, Text.trim_eq_self_iff, stripPort_eq_self_iff]
  exact ⟨fun ⟨htext, htrimmed, hport⟩ => ⟨htext, htrimmed, hport⟩,
    fun ⟨htext, htrimmed, hport⟩ => ⟨htext, htrimmed, hport⟩⟩

instance (name : List Char) : Decidable (IsPlainName name) :=
  decidable_of_iff' _ (isPlainName_iff name)

/-- A plain name is a host itself. -/
theorem IsPlainName.hostIn {name : List Char} (h : IsPlainName name) : HostIn name name := by
  obtain ⟨-, htrim, hport⟩ := (isPlainName_iff name).1 h
  rw [hostIn_iff, htrim, hport]

end Gatehouse.Http
