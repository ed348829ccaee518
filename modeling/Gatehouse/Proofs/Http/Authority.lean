import Gatehouse.Proofs.Http.HostForms

namespace Gatehouse.Http

/-!
# Authorities

A request whose `Host` field says nothing is for the authority of its target, where user information
may stand in front of the host. The authority is read like a field.

* `Authority`, `Authority.WellFormed` — user information, host and port, and their characters;
* `stripPort_eq_self_of_colon`, `stripPort_of_user` — what is cut off behind user information;
* `Authority.hostRead`, `Authority.hostIn` — what is read of an authority, which is the host alone
  when there is no user information;
* `AddressedBy`, `host_of_addressedBy` — the host of a request by the authority of its target.
-/

/-! ### The parts of an authority -/

/-- User information, if there is any, a host, and what stands behind it. -/
structure Authority where
  user : Option (List Char)
  host : List Char
  port : List Char
  deriving DecidableEq, Repr

namespace Authority

/-- The parts in a row, with an at sign behind user information. -/
def text (a : Authority) : List Char :=
  match a.user with
  | none => a.host ++ a.port
  | some user => user ++ '@' :: (a.host ++ a.port)

/-- User information is of the characters of names and of colons, and nothing but the sign behind it
    is an at sign. -/
structure WellFormed (a : Authority) : Prop where
  user : ∀ user, a.user = some user → ∀ c ∈ user, (isNameChar c = true ∨ c = ':') ∧ c ≠ '@'
  host : IsHost a.host
  single : '@' ∉ a.host
  port : IsPort a.port

/-- What is read: without user information the host. With it, the user information stays, and the
    port is dropped only if it has the only colon. -/
def hostRead (a : Authority) : List Char :=
  match a.user with
  | none => a.host
  | some user => if ':' ∈ user ++ a.host then a.text else user ++ '@' :: a.host

end Authority

/-! ### What is read -/

variable {host port user front rest : List Char} {a : Authority}

/-- Nothing is cut off where something behind a colon is no digit. -/
theorem stripPort_eq_self_of_colon (hopens : front.head? ≠ some '[') (hcolon : ':' ∈ front)
    (hrest : ∃ c ∈ rest, c.isDigit = false) : stripPort (front ++ rest) = front ++ rest := by
  rw [stripPort_eq_self_iff]
  intro host hport
  generalize htext : front ++ rest = text at hport
  cases hport with
  | @bracketed inside more address closes nonempty =>
    refine hopens ?_
    have hhead := congrArg List.head? htext
    rwa [List.head?_append_of_ne_nil _ (List.ne_nil_of_mem hcolon), address] at hhead
  | @named digits name single alldigits =>
    obtain ⟨c, hc, hdigit⟩ := hrest
    -- The colon of a port is the first one, so all that is cut off is behind it.
    rcases List.append_eq_append_iff.1 htext with ⟨between, rfl, -⟩ | ⟨between, rfl, hbehind⟩
    · exact single (List.mem_append_left _ hcolon)
    · cases between with
      | nil => exact single (by simpa using hcolon)
      | cons d between =>
        obtain ⟨rfl, rfl⟩ := List.cons.inj hbehind
        have hall := alldigits c (List.mem_append_right _ hc)
        rw [hdigit] at hall
        cases hall

theorem head_ne_append (hopens : user.head? ≠ some '[') (back : List Char) :
    (user ++ '@' :: back).head? ≠ some '[' := by
  cases user with
  | nil => exact fun hhead => absurd (Option.some.inj hhead) (by decide)
  | cons c user => exact hopens

/-- A host with a colon is an address in brackets. -/
theorem IsHost.address_of_colon (h : IsHost host) (hcolon : ':' ∈ host) :
    ∃ inside, host = '[' :: inside ++ [']'] ∧ ':' ∈ inside := by
  cases h with
  | name nonempty chars => exact absurd hcolon (head_ne_and_notMem_of_isNameChar chars).2
  | @address inside chars closes => exact ⟨inside, rfl, by simpa using hcolon⟩

/-- User information stays in front of the host, and a colon in either of them keeps the port. -/
theorem stripPort_of_user (hopens : user.head? ≠ some '[') (hhost : IsHost host)
    (hport : IsPort port) :
    stripPort (user ++ '@' :: (host ++ port))
      = if ':' ∈ user ++ host then user ++ '@' :: (host ++ port) else user ++ '@' :: host := by
  by_cases hcolon : ':' ∈ user ++ host
  · rw [if_pos hcolon]
    by_cases huser : ':' ∈ user
    · -- The at sign comes behind the colon.
      exact stripPort_eq_self_of_colon hopens huser ⟨'@', List.mem_cons_self, rfl⟩
    · -- The colon is one of an address, and the closing bracket comes behind it.
      obtain ⟨inside, rfl, hinside⟩ :=
        hhost.address_of_colon ((List.mem_append.1 hcolon).resolve_left huser)
      have htext : user ++ '@' :: ('[' :: inside ++ [']'] ++ port)
          = (user ++ '@' :: '[' :: inside) ++ ']' :: port := by simp
      rw [htext]
      exact stripPort_eq_self_of_colon (head_ne_append hopens _) (by simp [hinside])
        ⟨']', List.mem_cons_self, rfl⟩
  · have hfree : ':' ∉ user ++ '@' :: host := by
      simpa [List.mem_append, not_or] using hcolon
    have htext : user ++ '@' :: (host ++ port) = (user ++ '@' :: host) ++ port := by simp
    rw [if_neg hcolon, htext, stripPort_append_of_notMem (head_ne_append hopens host) hfree hport]

namespace Authority.WellFormed

/-- No user information starts with a bracket. -/
theorem head_ne (h : a.WellFormed) (huser : a.user = some user) : user.head? ≠ some '[' := by
  intro hhead
  rcases (h.user _ huser '[' (List.mem_of_mem_head? hhead)).1 with hname | hcolon
  · exact absurd hname (by decide)
  · exact absurd hcolon (by decide)

/-- No blank stands at either end of an authority. -/
theorem trimmed (h : a.WellFormed) : Text.IsTrimmed a.text := by
  have hbehind : Text.IsTrimmed (a.host ++ a.port) :=
    h.host.trimmed.append (Text.isTrimmed_of_forall fun c hc => (h.port.visible c hc).2)
  rw [Authority.text]
  cases huser : a.user with
  | none => exact hbehind
  | some user =>
    have hfront : Text.IsTrimmed (user ++ ['@']) := by
      refine Text.isTrimmed_of_forall fun c hc => ?_
      rcases List.mem_append.1 hc with hc | hc
      · rcases (h.user _ huser c hc).1 with hname | rfl
        · exact (visible_of_isNameChar hname).2
        · rfl
      · rw [List.mem_singleton.1 hc]
        rfl
    have htext : user ++ '@' :: (a.host ++ a.port) = user ++ ['@'] ++ (a.host ++ a.port) := by simp
    show Text.IsTrimmed (user ++ '@' :: (a.host ++ a.port))
    rw [htext]
    exact hfront.append hbehind

end Authority.WellFormed

/-- What an authority says. -/
theorem Authority.hostIn (h : a.WellFormed) : HostIn a.text a.hostRead := by
  rw [hostIn_iff, Text.trim_eq_self_iff.2 h.trimmed, Authority.text, Authority.hostRead]
  cases huser : a.user with
  | none => exact (stripPort_append (.inr h.host) h.port).symm
  | some user =>
    simp only [Authority.text, huser]
    exact (stripPort_of_user (h.head_ne huser) h.host h.port).symm

theorem Authority.hostRead_of_user (huser : a.user = some user) :
    a.hostRead = if ':' ∈ user ++ a.host then user ++ '@' :: (a.host ++ a.port)
      else user ++ '@' :: a.host := by
  simp only [Authority.hostRead, Authority.text, huser]

/-- The host is read alone only where it stands alone, the port aside. -/
theorem Authority.lower_hostRead_eq_iff :
    Text.lower a.hostRead = Text.lower a.host ↔ a.user = none := by
  constructor
  · intro hlower
    by_contra huser
    obtain ⟨user, huser⟩ := Option.ne_none_iff_exists'.1 huser
    -- With the at sign more is read than the host.
    have hlength := congrArg List.length hlower
    rw [Text.length_lower, Text.length_lower, Authority.hostRead_of_user huser] at hlength
    split at hlength
    · simp only [List.length_append, List.length_cons] at hlength
      omega
    · simp only [List.length_append, List.length_cons] at hlength
      omega
  · intro huser
    rw [Authority.hostRead, huser]

theorem Authority.hostRead_ne_nil (h : a.WellFormed) : a.hostRead ≠ [] := by
  cases huser : a.user with
  | none =>
    rw [Authority.hostRead, huser]
    exact h.host.ne_nil
  | some user =>
    rw [Authority.hostRead_of_user huser]
    split
    · simp
    · simp

/-! ### Requests -/

/-- The `Host` field of the request is absent or not readable as text, and the target has the
    authority. -/
structure AddressedBy (a : Authority) (request : Request) : Prop where
  unsaid : (request.headers.first? .host).bind valueText? = none
  target : request.target.authority = some (String.ofList a.text)

/-- Such a request is for what is read of the authority. -/
theorem host_of_addressedBy {request : Request} (ha : a.WellFormed)
    (h : AddressedBy a request) :
    request.host = some (String.ofList (Text.lower a.hostRead)) := by
  rw [Request.host, Request.hostText?, h.unsaid, h.target, Option.map_some, Option.bind_some,
    String.toList_ofList, hostName?_of_hostIn (Authority.hostIn ha), named?,
    if_neg (Authority.hostRead_ne_nil ha)]

end Gatehouse.Http
