import Gatehouse.Proofs.Http.HostName

namespace Gatehouse.Http

/-!
# Hosts as they are written

A host is a name, or an address in brackets, and a port may stand behind it. A field says so in any
letter case and with blanks around.

* `IsHost`, `IsPort` — hosts and ports by their texts; `IsHost.of_lower_eq` — letter case aside;
* `stripPort_append`, `hostIn_of_isHost` — of a host, a port and blanks the host is read;
* `Says`, `IsFor` — field values that say a host, and requests with such a field;
* `host_of_isFor` — what a request is for when its field says a host, or that there is none.
-/

/-! ### Hosts and ports -/

/-- The characters of a name: visible ASCII but colons and opening brackets. -/
def isNameChar (c : Char) : Bool :=
  0x21 ≤ c.toNat && c.toNat < 0x7F && c != ':' && c != '['

/-- A host by its text: a name, or an address in brackets. -/
inductive IsHost : List Char → Prop where
  | name {cs : List Char} (nonempty : cs ≠ []) (chars : ∀ c ∈ cs, isNameChar c = true) : IsHost cs
  | address {inside : List Char} (chars : ∀ c ∈ inside, isTextChar c = true)
      (closes : ']' ∉ inside) : IsHost ('[' :: inside ++ [']'])

/-- What may stand behind a host: nothing, or a colon and digits, of which there may be none. -/
inductive IsPort : List Char → Prop where
  | absent : IsPort []
  | digits {ds : List Char} (digits : ∀ d ∈ ds, d.isDigit = true) : IsPort (':' :: ds)

variable {host port written cs : List Char} {c d : Char}

/-- Letters and digits by their numbers. -/
theorem isAlphanum_iff_toNat : c.isAlphanum = true ↔
    (65 ≤ c.toNat ∧ c.toNat ≤ 90) ∨ (97 ≤ c.toNat ∧ c.toNat ≤ 122) ∨
      (48 ≤ c.toNat ∧ c.toNat ≤ 57) := by
  rw [Char.isAlphanum, Bool.or_eq_true, Utf8.isAlpha_iff, or_assoc]
  simp only [Char.isDigit, Bool.and_eq_true, decide_eq_true_eq]
  rfl

theorem isNameChar_of_isAlphanum (h : c.isAlphanum = true) : isNameChar c = true := by
  rw [isAlphanum_iff_toNat] at h
  have hcolon : ':'.toNat = 58 := rfl
  have hbracket : '['.toNat = 91 := rfl
  simp only [isNameChar, Bool.and_eq_true, decide_eq_true_eq, bne_iff_ne, ne_eq, ← Char.toNat_inj]
  omega

/-- Visible ASCII is readable and not blank. -/
theorem isTextChar_and_not_isBlank (hlow : 0x21 ≤ c.toNat) (hhigh : c.toNat < 0x7F) :
    isTextChar c = true ∧ Text.isBlank c = false := by
  constructor
  · simp only [isTextChar, Bool.or_eq_true, Bool.and_eq_true, decide_eq_true_eq]
    exact .inr ⟨Nat.le_of_succ_le hlow, hhigh⟩
  · rw [← Bool.not_eq_true]
    simp only [Text.isBlank, Bool.or_eq_true, Bool.and_eq_true, decide_eq_true_eq, beq_iff_eq]
    omega

theorem visible_of_isNameChar (h : isNameChar c = true) :
    isTextChar c = true ∧ Text.isBlank c = false := by
  simp only [isNameChar, Bool.and_eq_true, decide_eq_true_eq] at h
  exact isTextChar_and_not_isBlank h.1.1.1 h.1.1.2

theorem visible_of_isDigit (h : d.isDigit = true) :
    isTextChar d = true ∧ Text.isBlank d = false :=
  visible_of_isNameChar (isNameChar_of_isAlphanum (by rw [Char.isAlphanum, h, Bool.or_true]))

theorem IsHost.ne_nil (h : IsHost host) : host ≠ [] := by
  cases h with
  | name nonempty chars => exact nonempty
  | address chars closes => nofun

/-- A host is readable. -/
theorem IsHost.text (h : IsHost host) : ∀ c ∈ host, isTextChar c = true := by
  cases h with
  | name nonempty chars => exact fun c hc => (visible_of_isNameChar (chars c hc)).1
  | address chars closes =>
    intro c hc
    rw [List.mem_append, List.mem_cons, List.mem_singleton] at hc
    rcases hc with (rfl | hc) | rfl
    · rfl
    · exact chars c hc
    · rfl

/-- No blank stands at either end of a host. -/
theorem IsHost.trimmed (h : IsHost host) : Text.IsTrimmed host := by
  cases h with
  | name nonempty chars =>
    exact Text.isTrimmed_of_forall fun c hc => (visible_of_isNameChar (chars c hc)).2
  | address chars closes =>
    intro hne
    rw [List.getLast_append_of_ne_nil hne (List.cons_ne_nil _ _)]
    exact ⟨rfl, rfl⟩

theorem IsPort.visible (h : IsPort port) :
    ∀ c ∈ port, isTextChar c = true ∧ Text.isBlank c = false := by
  cases h with
  | absent => exact fun c hc => absurd hc List.not_mem_nil
  | digits digits =>
    exact List.forall_mem_cons.2 ⟨⟨rfl, rfl⟩, fun d hd => visible_of_isDigit (digits d hd)⟩

/-! ### Letter case -/

/-- Characters that are equal, letter case aside, are the same or both letters. -/
theorem eq_or_isAlpha_of_toLower_eq (h : c.toLower = d.toLower) :
    c = d ∨ (c.isAlpha = true ∧ d.isAlpha = true) := by
  have hnumbers := congrArg Char.toNat h
  rw [Utf8.toNat_toLower, Utf8.toNat_toLower] at hnumbers
  rw [Utf8.isAlpha_iff, Utf8.isAlpha_iff, ← Char.toNat_inj]
  split at hnumbers <;> split at hnumbers <;> omega

/-- Where every letter is allowed, letter case does not decide whether a text is. -/
theorem forall_of_lower_eq {allowed : Char → Prop} (hletter : ∀ c, c.isAlpha = true → allowed c)
    {a b : List Char} (h : Text.lower a = Text.lower b) (hb : ∀ c ∈ b, allowed c) :
    ∀ c ∈ a, allowed c := by
  intro c hc
  have hmem : c.toLower ∈ Text.lower b := h ▸ List.mem_map_of_mem hc
  obtain ⟨d, hd, hlower⟩ := List.mem_map.1 hmem
  rcases eq_or_isAlpha_of_toLower_eq hlower with rfl | ⟨-, hc⟩
  · exact hb d hd
  · exact hletter c hc

theorem eq_of_toLower_eq (h : c.toLower = d.toLower) (hd : d.isAlpha = false) : c = d := by
  rcases eq_or_isAlpha_of_toLower_eq h with rfl | ⟨-, hletter⟩
  · rfl
  · rw [hd] at hletter
    cases hletter

/-- A host is a host in any letter case. -/
theorem IsHost.of_lower_eq (hhost : IsHost host) (h : Text.lower written = Text.lower host) :
    IsHost written := by
  have hname : ∀ c : Char, c.isAlpha = true → isNameChar c = true := fun c hc =>
    isNameChar_of_isAlphanum (by rw [Char.isAlphanum, hc, Bool.true_or])
  cases hhost with
  | name nonempty chars =>
    refine .name ?_ (forall_of_lower_eq hname h chars)
    rintro rfl
    exact nonempty (List.map_eq_nil_iff.1 h.symm)
  | @address inside chars closes =>
    -- The brackets have no other case, so they stand where they stood.
    obtain ⟨front, back, rfl, hfront, hback⟩ := List.map_eq_append_iff.1
      (h.trans List.map_append)
    obtain ⟨c, inside', rfl, hc, hinside⟩ := List.map_eq_cons_iff.1 hfront
    obtain ⟨d, rfl, hd⟩ := List.map_eq_singleton_iff.1 hback
    obtain rfl := eq_of_toLower_eq hc rfl
    obtain rfl := eq_of_toLower_eq hd rfl
    refine .address ?_ fun hmem => ?_
    · exact forall_of_lower_eq (fun c hc => (visible_of_isNameChar (hname c hc)).1) hinside chars
    · have hclosed : ∀ c ∈ inside', c ≠ ']' := by
        refine forall_of_lower_eq ?_ hinside fun c hc => ?_
        · rintro c hc rfl
          cases hc
        · rintro rfl
          exact closes hc
      exact hclosed _ hmem rfl

/-! ### What is read -/

/-- A text with a port starts with a bracket or has a colon. -/
theorem PortAfter.head_or_mem (h : PortAfter host cs) : cs.head? = some '[' ∨ ':' ∈ cs := by
  cases h with
  | bracketed address closes more => exact .inl (by rw [address]; rfl)
  | named name single digits => exact .inr (by simp)

/-- Without these nothing is cut off. -/
theorem stripPort_eq_self (hopens : cs.head? ≠ some '[') (hcolon : ':' ∉ cs) :
    stripPort cs = cs :=
  stripPort_eq_self_iff.2 fun _ h => h.head_or_mem.elim hopens hcolon

/-- A name has neither. -/
theorem head_ne_and_notMem_of_isNameChar (h : ∀ c ∈ cs, isNameChar c = true) :
    cs.head? ≠ some '[' ∧ ':' ∉ cs :=
  ⟨fun hhead => absurd (h _ (List.mem_of_mem_head? hhead)) (by decide),
    fun hmem => absurd (h _ hmem) (by decide)⟩

/-- A port is cut off from what has no colon. -/
theorem stripPort_append_of_notMem (hopens : cs.head? ≠ some '[') (hcolon : ':' ∉ cs)
    (hport : IsPort port) : stripPort (cs ++ port) = cs := by
  cases hport with
  | absent =>
    rw [List.append_nil]
    exact stripPort_eq_self hopens hcolon
  | digits digits => exact stripPort_of_portAfter (.named hopens hcolon digits)

/-- An address ends with its bracket, whatever follows. -/
theorem stripPort_address {inside : List Char} (closes : ']' ∉ inside) (rest : List Char) :
    stripPort ('[' :: inside ++ [']'] ++ rest) = '[' :: inside ++ [']'] := by
  have hopens : ('[' :: inside ++ [']'] ++ rest).head? = some '[' := rfl
  have hsplit : Text.splitOnce ']' ('[' :: inside ++ [']'] ++ rest)
      = some ('[' :: inside, rest) := by
    refine Text.splitOnce_eq_some_iff.2 ⟨by simp, ?_⟩
    rw [List.mem_cons, not_or]
    exact ⟨by decide, closes⟩
  rw [stripPort, if_pos hopens, hsplit]

/-- Of a host and a port the host is left, also of nothing and a port. -/
theorem stripPort_append (hhost : host = [] ∨ IsHost host) (hport : IsPort port) :
    stripPort (host ++ port) = host := by
  rcases hhost with rfl | hhost
  · exact stripPort_append_of_notMem nofun List.not_mem_nil hport
  · cases hhost with
    | name nonempty chars =>
      obtain ⟨hopens, hcolon⟩ := head_ne_and_notMem_of_isNameChar chars
      exact stripPort_append_of_notMem hopens hcolon hport
    | address chars closes => exact stripPort_address closes port

/-- What is read of a host and a port between blanks is the host. -/
theorem hostIn_of_isHost {before after : List Char} (hhost : host = [] ∨ IsHost host)
    (hport : IsPort port) (hbefore : ∀ c ∈ before, Text.isBlank c = true)
    (hafter : ∀ c ∈ after, Text.isBlank c = true) :
    HostIn (before ++ (host ++ port) ++ after) host := by
  have htrimmed : Text.IsTrimmed host := by
    rcases hhost with rfl | hhost
    · exact fun hne => absurd rfl hne
    · exact hhost.trimmed
  have hcore := htrimmed.append (Text.isTrimmed_of_forall fun c hc => (hport.visible c hc).2)
  rw [hostIn_iff, hcore.trim_between hbefore hafter, stripPort_append hhost hport]

/-! ### Fields -/

/-- The value says the host: in any letter case, with or without a port, and between blanks. A value
    that says the empty host is blank, a port aside. -/
inductive Says (host : List Char) : Bytes → Prop where
  | intro {before written port after : List Char}
      (leading : ∀ c ∈ before, c = ' ' ∨ c = '\t')
      (sameCase : Text.lower written = Text.lower host) (isPort : IsPort port)
      (trailing : ∀ c ∈ after, c = ' ' ∨ c = '\t') :
      Says host (Utf8.encode (before ++ (written ++ port) ++ after))

/-- The first `Host` value of the request says the host. -/
def IsFor (host : List Char) (request : Request) : Prop :=
  ∃ value, request.headers.first? .host = some value ∧ Says host value

theorem text_and_blank (h : c = ' ' ∨ c = '\t') : isTextChar c = true ∧ Text.isBlank c = true := by
  rcases h with rfl | rfl
  · exact ⟨rfl, rfl⟩
  · exact ⟨rfl, rfl⟩

/-- Hosts that are equal, letter case aside, have one name. -/
theorem named?_of_lower_eq (h : Text.lower written = Text.lower host) :
    named? written = named? host := by
  have hempty : written = [] ↔ host = [] := by
    rw [← List.length_eq_zero_iff, ← Text.length_lower, h, Text.length_lower,
      List.length_eq_zero_iff]
  simp only [named?, hempty, h]

/-- A request is for the host that its field says, and for no host if the field says none. -/
theorem host_of_isFor {request : Request} (hhost : host = [] ∨ IsHost host)
    (h : IsFor host request) : request.host = named? host := by
  obtain ⟨value, hfirst, hsays⟩ := h
  cases hsays with
  | @intro before written port after leading sameCase isPort trailing =>
    have hwritten : written = [] ∨ IsHost written := by
      rcases hhost with rfl | hhost
      · exact .inl (List.map_eq_nil_iff.1 sameCase)
      · exact .inr (hhost.of_lower_eq sameCase)
    have hhosttext : ∀ c ∈ written, isTextChar c = true := by
      rcases hwritten with rfl | hwritten
      · exact List.forall_mem_nil _
      · exact hwritten.text
    have htext : (before ++ (written ++ port) ++ after).all isTextChar = true := by
      simp only [List.all_append, List.all_eq_true, Bool.and_eq_true]
      exact ⟨⟨fun c hc => (text_and_blank (leading c hc)).1, hhosttext,
        fun c hc => (isPort.visible c hc).1⟩, fun c hc => (text_and_blank (trailing c hc)).1⟩
    have hin : HostIn (before ++ (written ++ port) ++ after) written :=
      hostIn_of_isHost hwritten isPort (fun c hc => (text_and_blank (leading c hc)).2)
        fun c hc => (text_and_blank (trailing c hc)).2
    rw [Request.host, Request.hostText?, hfirst, Option.bind_some, valueText?_encode, if_pos htext]
    exact (hostName?_of_hostIn hin).trans (named?_of_lower_eq sameCase)

theorem host_of_isFor_isHost {request : Request} (hhost : IsHost host) (h : IsFor host request) :
    request.host = some (String.ofList (Text.lower host)) := by
  rw [host_of_isFor (.inr hhost) h, named?, if_neg hhost.ne_nil]

end Gatehouse.Http
