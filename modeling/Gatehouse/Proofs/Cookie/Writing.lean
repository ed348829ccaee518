import Gatehouse.Cookie
import Gatehouse.Proofs.Text.Splitting
import Mathlib

namespace Gatehouse

/-!
# Cookies as they are written

The text of a cookie is its pair and, each behind a semicolon and a space, the attributes that are
set on it. The name, the value, the path and the domain are written as they are, so a semicolon in
one of them would look like its end. Where there is none, the text tells which cookie it is of.

* `Attribute`, `Attribute.read?_text` — the attributes a cookie can have, and a reader for each;
* `Cookie.settings`, `Cookie.foldl_settings` — the attributes set on a cookie, which with its name
  and its value are all there is to it;
* `Cookie.toList_text`, `Cookie.splitAll_text` — the text of a cookie and its segments;
* `Cookie.parts?`, `Cookie.read?` — a reader for such texts;
* `Cookie.text_unambiguous` — what is written is read back, so no two cookies are written alike.
-/

/-! ### Attributes -/

/-- An attribute that a cookie can have. -/
inductive Attribute where
  | path (path : String)
  | domain (domain : String)
  | maxAge (seconds : Int)
  | secure
  | httpOnly
  deriving DecidableEq

namespace Attribute

/-- The attribute is set on the cookie. -/
def IsSetOn (c : Cookie) : Attribute → Prop
  | path p => c.path = some p
  | domain d => c.domain = some d
  | maxAge n => c.maxAge = some n
  | secure => c.secure = true
  | httpOnly => c.httpOnly = true

/-- The cookie with the attribute set on it. -/
def setOn (c : Cookie) : Attribute → Cookie
  | path p => { c with path := some p }
  | domain d => { c with domain := some d }
  | maxAge n => { c with maxAge := some n }
  | secure => { c with secure := true }
  | httpOnly => { c with httpOnly := true }

/-- How the attribute is written. -/
def text : Attribute → String
  | path p => "Path=" ++ p
  | domain d => "Domain=" ++ d
  | maxAge n => "Max-Age=" ++ toString n
  | secure => "Secure"
  | httpOnly => "HttpOnly"

/-- The attribute of a key with a value. -/
def ofKeyValue? (key value : String) : Option Attribute :=
  if key = "Path" then some (path value)
  else if key = "Domain" then some (domain value)
  else if key = "Max-Age" then value.toInt?.map maxAge
  else none

/-- The attribute of a key alone. -/
def ofKey? (key : String) : Option Attribute :=
  if key = "Secure" then some secure
  else if key = "HttpOnly" then some httpOnly
  else none

/-- Reads an attribute: a key and a value at the first `=`, or a key alone. -/
def read? (cs : List Char) : Option Attribute :=
  match Text.splitOnce '=' cs with
  | some (key, value) => ofKeyValue? (String.ofList key) (String.ofList value)
  | none => ofKey? (String.ofList cs)

theorem read?_keyValue {key : String} (hkey : '=' ∉ key.toList) (value : String) :
    read? (key ++ "=" ++ value).toList = ofKeyValue? key value := by
  have hsplit : Text.splitOnce '=' (key ++ "=" ++ value).toList
      = some (key.toList, value.toList) := by
    refine Text.splitOnce_eq_some_iff.2 ⟨?_, hkey⟩
    simp
  unfold read?
  rw [hsplit]
  simp

/-- What is written of an attribute is read as it. -/
theorem read?_text (a : Attribute) : read? a.text.toList = some a := by
  cases a with
  | path p =>
    show read? ("Path" ++ "=" ++ p).toList = some (path p)
    rw [read?_keyValue (by decide)]
    simp [ofKeyValue?]
  | domain d =>
    show read? ("Domain" ++ "=" ++ d).toList = some (domain d)
    rw [read?_keyValue (by decide)]
    simp [ofKeyValue?]
  | maxAge n =>
    -- Of the modules of Mathlib only the whole of it brings this fact about numbers along.
    have hnumber : (toString n).toInt? = some n := Int.toInt?_repr n
    show read? ("Max-Age" ++ "=" ++ toString n).toList = some (maxAge n)
    rw [read?_keyValue (by decide), ofKeyValue?, hnumber]
    simp
  | secure => decide +kernel
  | httpOnly => decide +kernel

end Attribute

namespace Cookie

/-- The attributes set on a cookie, in the order they are written. -/
def settings (c : Cookie) : List Attribute :=
  (c.path.map Attribute.path).toList
    ++ (c.domain.map Attribute.domain).toList
    ++ (c.maxAge.map Attribute.maxAge).toList
    ++ (if c.secure then [Attribute.secure] else [])
    ++ (if c.httpOnly then [Attribute.httpOnly] else [])

theorem mem_settings_iff {c : Cookie} {a : Attribute} : a ∈ c.settings ↔ a.IsSetOn c := by
  cases a <;> simp [settings, Attribute.IsSetOn]

theorem attributes_eq (c : Cookie) : c.attributes = c.settings.map Attribute.text := by
  simp only [attributes, settings, List.map_append, Option.toList_map, List.map_map,
    apply_ite (List.map Attribute.text)]
  rfl

/-- A cookie is its name, its value and the attributes set on it. -/
theorem foldl_settings (c : Cookie) :
    c.settings.foldl Attribute.setOn (plain c.name c.value) = c := by
  obtain ⟨name, value, path, domain, maxAge, secure, httpOnly⟩ := c
  cases path <;> cases domain <;> cases maxAge <;> cases secure <;> cases httpOnly <;> rfl

/-! ### The text -/

/-- The pair that the text of a cookie starts with. -/
def pairText (c : Cookie) : List Char := c.name.toList ++ '=' :: c.value.toList

/-- The segments that the text of a cookie consists of. -/
def segments (c : Cookie) : List (List Char) :=
  c.pairText :: c.settings.map fun a => ' ' :: a.text.toList

/-- The text is the segments with semicolons between them. -/
theorem toList_text (c : Cookie) : c.text.toList = Text.joinWith [';'] c.segments := by
  have hfold : ∀ (attributes : List String) (start : String),
      (attributes.foldl (fun acc a => acc ++ "; " ++ a) start).toList
        = start.toList ++ attributes.flatMap fun a => ';' :: ' ' :: a.toList := by
    intro attributes
    induction attributes with
    | nil => simp
    | cons a attributes ih =>
      intro start
      rw [List.foldl_cons, ih]
      simp
  rw [text, hfold, attributes_eq, segments, Text.joinWith_cons, List.flatMap_map, List.flatMap_map]
  simp [pairText]

/-- There is no semicolon in the name, in the value, in the path or in the domain, and no `=` in the
    name. -/
structure IsSeparable (c : Cookie) : Prop where
  name : '=' ∉ c.name.toList ∧ ';' ∉ c.name.toList
  value : ';' ∉ c.value.toList
  path : ∀ p, c.path = some p → ';' ∉ p.toList
  domain : ∀ d, c.domain = some d → ';' ∉ d.toList

/-- Numbers are written without semicolons. -/
theorem semicolon_notMem_toString (n : Int) : ';' ∉ (toString n).toList := by
  have hnat : ∀ m : Nat, ';' ∉ m.repr.toList := by
    intro m hmem
    rw [Nat.repr_eq_ofList_toDigits, String.toList_ofList] at hmem
    have hdigit := Nat.isDigit_of_mem_toDigits (by decide) (by decide) hmem
    exact absurd hdigit (by decide)
  cases n with
  | ofNat m => exact hnat m
  | negSucc m =>
    show ';' ∉ ("-" ++ (m + 1).repr).toList
    simpa using hnat (m + 1)

/-- The semicolons of the text stand between the segments only. -/
theorem splitAll_text {c : Cookie} (hc : c.IsSeparable) :
    Text.splitAll ';' c.text.toList = c.segments := by
  have hpair : ';' ∉ c.pairText := by simp [pairText, hc.name.2, hc.value]
  have hset : ∀ a : Attribute, a.IsSetOn c → ';' ∉ a.text.toList := by
    intro a ha
    cases a with
    | path p => simpa [Attribute.text] using hc.path p ha
    | domain d => simpa [Attribute.text] using hc.domain d ha
    | maxAge n => simpa [Attribute.text] using semicolon_notMem_toString n
    | secure => decide
    | httpOnly => decide
  have hfree : ∀ segment ∈ c.segments, ';' ∉ segment := by
    intro segment hsegment
    rw [segments, List.mem_cons, List.mem_map] at hsegment
    rcases hsegment with rfl | ⟨a, ha, rfl⟩
    · exact hpair
    · simpa using hset a (mem_settings_iff.1 ha)
  exact Text.isCut_iff.1 ⟨List.cons_ne_nil _ _, hfree, c.toList_text.symm⟩

/-! ### Reading it back -/

/-- Reads what stands between two semicolons: a space, and an attribute. -/
def readSegment? : List Char → Option Attribute
  | ' ' :: body => Attribute.read? body
  | _ => none

/-- Reads the text of a cookie: the segments between the semicolons, of which the first one is cut
    at its first `=` into name and value, and the others are attributes. -/
def parts? (text : String) : Option (String × String × List Attribute) :=
  match Text.splitAll ';' text.toList with
  | [] => none
  | pair :: rest => do
    let (name, value) ← Text.splitOnce '=' pair
    let attributes ← rest.mapM readSegment?
    some (String.ofList name, String.ofList value, attributes)

/-- The cookie that a text is of. -/
def read? (text : String) : Option Cookie :=
  (parts? text).map fun (name, value, attributes) =>
    attributes.foldl Attribute.setOn (plain name value)

theorem mapM_readSegment? (attributes : List Attribute) :
    (attributes.map fun a => ' ' :: a.text.toList).mapM readSegment? = some attributes := by
  induction attributes with
  | nil => rfl
  | cons a attributes ih =>
    have hfirst : readSegment? (' ' :: a.text.toList) = some a := a.read?_text
    rw [List.map_cons, List.mapM_cons, hfirst, ih]
    rfl

/-- The parts of the text are the name, the value and the attributes that are set. -/
theorem parts?_text {c : Cookie} (hc : c.IsSeparable) :
    parts? c.text = some (c.name, c.value, c.settings) := by
  have hpair : Text.splitOnce '=' c.pairText = some (c.name.toList, c.value.toList) :=
    Text.splitOnce_eq_some_iff.2 ⟨rfl, hc.name.1⟩
  unfold parts?
  rw [splitAll_text hc, segments]
  simp only [hpair, Option.bind_eq_bind, Option.bind_some, mapM_readSegment?, String.ofList_toList]

/-- The text of a cookie without separators in its parts tells them all. A reader finds its name,
    its value, exactly the attributes that are set, and so the cookie; no other one is written
    alike. -/
theorem text_unambiguous {c : Cookie} (hc : c.IsSeparable) :
    (∃ attributes, parts? c.text = some (c.name, c.value, attributes) ∧
      ∀ a, a ∈ attributes ↔ a.IsSetOn c) ∧
    read? c.text = some c ∧
    ∀ other : Cookie, other.IsSeparable → other.text = c.text → other = c := by
  have hread : ∀ d : Cookie, d.IsSeparable → read? d.text = some d := by
    intro d hd
    rw [read?, parts?_text hd]
    show some (d.settings.foldl Attribute.setOn (plain d.name d.value)) = some d
    rw [foldl_settings]
  refine ⟨⟨c.settings, parts?_text hc, fun a => mem_settings_iff⟩, hread c hc, ?_⟩
  intro other hother htext
  have hsame : some other = some c := by rw [← hread other hother, htext, hread c hc]
  exact Option.some.inj hsame

/-- A cookie whose parts look like attributes, of which it has three. -/
def disguised : Cookie :=
  ⟨"Secure", "Path=/", some "Max-Age=1", some "Domain=HttpOnly", some (-5), false, false⟩

/-- It is read back, and none of the attributes that it looks like is found. -/
theorem text_unambiguous_disguised :
    disguised.text = "Secure=Path=/; Path=Max-Age=1; Domain=Domain=HttpOnly; Max-Age=-5" ∧
      read? disguised.text = some disguised ∧
      ∃ attributes, parts? disguised.text = some ("Secure", "Path=/", attributes) ∧
        Attribute.secure ∉ attributes := by
  have hseparable : disguised.IsSeparable := by
    refine ⟨by decide, by decide, ?_, ?_⟩
    · rintro p ⟨⟩
      decide
    · rintro d ⟨⟩
      decide
  obtain ⟨⟨attributes, hparts, hset⟩, hread, -⟩ := text_unambiguous hseparable
  refine ⟨by decide +kernel, hread, attributes, hparts, ?_⟩
  rw [hset]
  exact nofun

end Cookie

end Gatehouse
