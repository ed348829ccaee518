import Gatehouse.Proofs.Http.Authority
import Gatehouse.Proofs.Routing.Reachability

namespace Gatehouse.Routing

open Http

/-!
# Hosts by fields and authorities

A request is for the host that its `Host` field says, or where the field says nothing, for the
authority of its target. However the host is written, the same virtual host serves it, with one
exception: user information in front of the host of a target is taken for a part of the host.

* `exists_servedBy` — requests for one name are served by one host;
* `build_ignores_port_and_case` — fields that say one host, whatever the port, the letter case and
  the blanks;
* `not_dropsUserInformation` — user information stays in the host of a request;
* `build_serves_authority` — what a request without a readable field is for.
-/

/-- Requests for one name are served by one host. -/
theorem exists_servedBy {r : Registry} {handler : Handler} (hbuild : build r = .ok handler)
    (name : Option String) :
    ∃ h ∈ r.hosts, r.Serves name h ∧
      ∀ request : Request, request.host = name → ServedBy handler h request := by
  have hcheck : r.check = .ok () := ((build_eq_ok_iff r handler).1 hbuild).1
  obtain ⟨h, hmem, hserves, -⟩ := Registry.exists_serves hcheck name
  refine ⟨h, hmem, hserves, ?_⟩
  rintro request rfl
  exact servedBy_of_serves hbuild hserves

/-- Without a name the only default host serves. -/
theorem Registry.Serves.only_default {r : Registry} {h : VirtualHost} (hserves : r.Serves none h) :
    r.hosts.filter (·.isDefault) = [h] := by
  cases hserves with
  | named named => cases named
  | default only unknown => exact only

/-! ### Fields -/

/-- Neither a port nor letter case nor blanks in a `Host` field change what a request is for, and so
    which host of a registry serves it. A field that says no host leads to the default host,
    whatever the target of the request is. -/
theorem build_ignores_port_and_case :
    (∀ host, IsHost host → ∀ request, IsFor host request →
      request.host = some (String.ofList (Text.lower host))) ∧
    (∀ request, IsFor [] request → request.host = none) ∧
    ∀ r handler, build r = .ok handler →
      (∀ host, IsHost host → ∃ h ∈ r.hosts, r.Serves (some (String.ofList (Text.lower host))) h ∧
        ∀ request, IsFor host request → ServedBy handler h request) ∧
      ∃ h, r.hosts.filter (·.isDefault) = [h] ∧
        ∀ request, IsFor [] request → ServedBy handler h request := by
  have hsaid : ∀ host, IsHost host → ∀ request, IsFor host request →
      request.host = some (String.ofList (Text.lower host)) := fun host hhost request hfor =>
    host_of_isFor_isHost hhost hfor
  have hunsaid : ∀ request, IsFor [] request → request.host = none := fun request hfor =>
    host_of_isFor (.inl rfl) hfor
  refine ⟨hsaid, hunsaid, fun r handler hbuild => ⟨fun host hhost => ?_, ?_⟩⟩
  · obtain ⟨h, hmem, hserves, hserved⟩ :=
      exists_servedBy hbuild (some (String.ofList (Text.lower host)))
    exact ⟨h, hmem, hserves, fun request hfor => hserved request (hsaid host hhost request hfor)⟩
  · obtain ⟨h, -, hserves, hserved⟩ := exists_servedBy hbuild none
    exact ⟨h, hserves.only_default, fun request hfor => hserved request (hunsaid request hfor)⟩

/-- The default host, and a host under an address. -/
def addressed : Registry :=
  ⟨[frontOf "home" .catchAll, frontOf "six" (VirtualHost.named.addName "[FD00::A:80]")]⟩

/-- A request for the root of an authority, with some `Host` values. -/
def hostRequest (authority : String) (values : List String) : Request :=
  .ofClient .get ⟨some "http", some authority, "/", none⟩ .http11
    (values.foldl (fun headers value => headers.append .host (Utf8.bytes value)) .empty) .empty

theorem serves_addressed : addressed.Serves (some "[fd00::a:80]")
    (frontOf "six" (VirtualHost.named.addName "[FD00::A:80]")) := by
  have hsplit : addressed.hosts = [frontOf "home" .catchAll]
      ++ frontOf "six" (VirtualHost.named.addName "[FD00::A:80]") :: [] := rfl
  exact .named rfl hsplit (by decide +kernel) (List.forall_mem_nil _)

/-- An address that seems to end in a port is kept as it is, in any letter case and with another
    port behind it, and a port alone leads to the default host though the target has the address. -/
theorem build_ignores_port_and_case_addressed :
    ∃ handler, build addressed = .ok handler ∧
      (handler (hostRequest "shop.test" [" [fd00::a:80]:443\t"])).visits = [.wrapper "six"] ∧
      (handler (hostRequest "[fd00::a:80]" [" :443"])).visits = [.wrapper "home"] := by
  have hbuild := (build_eq_ok_iff addressed _).2 ⟨rfl, rfl⟩
  obtain ⟨hhosts, d, honly, hdefault⟩ := build_ignores_port_and_case.2.2 addressed _ hbuild
  have hport : IsPort ":443".toList := .digits (List.all_eq_true.1 rfl)
  have hhost : IsHost ('[' :: "FD00::A:80".toList ++ [']']) :=
    .address (List.all_eq_true.1 rfl) (by decide +kernel)
  have haddress : IsFor ('[' :: "FD00::A:80".toList ++ [']'])
      (hostRequest "shop.test" [" [fd00::a:80]:443\t"]) :=
    ⟨Utf8.encode (" ".toList ++ ("[fd00::a:80]".toList ++ ":443".toList) ++ "\t".toList), rfl,
      .intro (by simp) (by decide +kernel) hport (by simp)⟩
  have hnothing : IsFor [] (hostRequest "[fd00::a:80]" [" :443"]) :=
    ⟨Utf8.encode (" ".toList ++ ([] ++ ":443".toList) ++ []), rfl,
      .intro (by simp) rfl hport (by simp)⟩
  obtain ⟨h, -, hserves, hserved⟩ := hhosts _ hhost
  obtain rfl := hserves.unique serves_addressed
  obtain rfl : frontOf "home" .catchAll = d := List.head_eq_of_cons_eq honly
  refine ⟨_, hbuild, ?_, ?_⟩
  · rw [hserved _ haddress _ rfl]
    rfl
  · rw [hdefault _ hnothing _ rfl]
    rfl

/-! ### Authorities -/

/-- A request whose `Host` field says nothing is for the host of its target, whatever stands around
    that host. -/
def DropsUserInformation : Prop :=
  ∀ (a : Authority) (uri : String) (request : Request), a.WellFormed →
    Target.parse? uri = some request.target → AddressedBy a request →
      request.host = some (String.ofList (Text.lower a.host))

/-- User information, a name and a port. -/
def withPassword : Authority := ⟨some "user:pw".toList, "example.com".toList, ":8080".toList⟩

/-- A request for a target with user information. -/
def toWithPassword : Request := hostRequest "user:pw@example.com:8080" []

theorem withPassword_wellFormed : withPassword.WellFormed where
  user := by
    rintro user ⟨⟩ c hc
    have hall : "user:pw".toList.all (fun c => (isNameChar c || c == ':') && c != '@') = true := rfl
    simpa using List.all_eq_true.1 hall c hc
  host := .name (by decide +kernel) (List.all_eq_true.1 rfl)
  single := by decide +kernel
  port := .digits (List.all_eq_true.1 rfl)

theorem addressedBy_withPassword : AddressedBy withPassword toWithPassword := ⟨rfl, rfl⟩

theorem schemeEnd_withPassword :
    Target.schemeEnd "http://user:pw@example.com:8080/".toList =
      some (some ("http".toList, "user:pw@example.com:8080/".toList)) := by
  have hclass : Target.isSchemeChar = fun c => c.isAlphanum || "+-.~".toList.contains c := by
    funext c
    simp [Target.isSchemeChar, String.contains_char_eq]
  rw [Target.schemeEnd, hclass]
  rfl

theorem authorityEnd?_withPassword :
    Target.authorityEnd? .start "user:pw@example.com:8080/".toList =
      some ("user:pw@example.com:8080".toList, ['/']) := by
  simp [Target.authorityEnd?, Target.endsAuthority, Target.AuthorityScan.start,
    Target.AuthorityScan.step?, Target.AuthorityScan.maxColons, Target.AuthorityScan.mayEnd,
    Target.isAuthorityChar]

theorem parse?_withPassword :
    Target.parse? "http://user:pw@example.com:8080/" = some toWithPassword.target := by
  show (Target.schemeEnd "http://user:pw@example.com:8080/".toList).bind _ = _
  rw [schemeEnd_withPassword]
  show (Target.authorityEnd? .start "user:pw@example.com:8080/".toList).bind _ = _
  rw [authorityEnd?_withPassword]
  rfl

/-- The user information stays in the host, and as it has a colon the port stays too. -/
theorem not_dropsUserInformation : ¬ DropsUserInformation := by
  intro h
  have hhost := h _ _ _ withPassword_wellFormed parse?_withPassword addressedBy_withPassword
  have hread : toWithPassword.host = some "user:pw@example.com:8080" := rfl
  rw [hread] at hhost
  exact absurd hhost (by decide +kernel)

/-- Without a readable `Host` field and without user information a request is for the host of the
    authority of its target, whatever the port is, and is served by the virtual host that serves
    requests whose field says that host. User information is kept in front of the host, and with a
    colon in either of them the port is kept as well, so that the host is never read alone. -/
theorem build_serves_authority {a : Authority} {request : Request} (ha : a.WellFormed)
    (haddressed : AddressedBy a request) :
    (request.host = some (String.ofList (Text.lower a.host)) ↔ a.user = none) ∧
    (∀ user, a.user = some user → request.host = some (String.ofList (Text.lower
      (if ':' ∈ user ++ a.host then user ++ '@' :: (a.host ++ a.port)
        else user ++ '@' :: a.host)))) ∧
    ∀ r handler, build r = .ok handler →
      ∃ h ∈ r.hosts, r.Serves request.host h ∧ ServedBy handler h request ∧
        (a.user = none → ∀ other, IsFor a.host other → ServedBy handler h other) := by
  have hread := host_of_addressedBy ha haddressed
  have halone : request.host = some (String.ofList (Text.lower a.host)) ↔ a.user = none := by
    rw [hread, Option.some_inj, String.ofList_inj, Authority.lower_hostRead_eq_iff]
  refine ⟨halone, fun user huser => ?_, fun r handler hbuild => ?_⟩
  · rw [hread, Authority.hostRead_of_user huser]
  · obtain ⟨h, hmem, hserves, hserved⟩ := exists_servedBy hbuild request.host
    refine ⟨h, hmem, hserves, hserved request rfl, fun huser other hother => hserved other ?_⟩
    rw [host_of_isFor_isHost ha.host hother, halone.2 huser]

/-- An address with an empty port behind it. -/
def emptyPort : Authority := ⟨none, '[' :: "FD00::a:80".toList ++ [']'], ":".toList⟩

/-- A request with two `Host` values, of which the first is no readable text. -/
def toEmptyPort : Request := hostRequest "[FD00::a:80]:" ["é", "shop.test"]

/-- The address leads to its host, and user information with a colon keeps the port. -/
theorem build_serves_authority_emptyPort :
    (∃ handler, build addressed = .ok handler ∧ (handler toEmptyPort).visits = [.wrapper "six"]) ∧
      toWithPassword.host = some "user:pw@example.com:8080" := by
  have hbuild := (build_eq_ok_iff addressed _).2 ⟨rfl, rfl⟩
  have hwell : emptyPort.WellFormed :=
    { user := nofun
      host := .address (List.all_eq_true.1 rfl) (by decide +kernel)
      single := by decide +kernel
      port := .digits (List.forall_mem_nil _) }
  have haddressed : AddressedBy emptyPort toEmptyPort := ⟨rfl, rfl⟩
  obtain ⟨hhost, -, hregistry⟩ := build_serves_authority hwell haddressed
  obtain ⟨h, -, hserves, hserved, -⟩ := hregistry addressed _ hbuild
  obtain rfl := (hhost.2 rfl ▸ hserves).unique serves_addressed
  obtain ⟨-, hkept, -⟩ := build_serves_authority withPassword_wellFormed addressedBy_withPassword
  refine ⟨⟨_, hbuild, ?_⟩, hkept _ rfl⟩
  rw [hserved _ rfl]
  rfl

end Gatehouse.Routing
