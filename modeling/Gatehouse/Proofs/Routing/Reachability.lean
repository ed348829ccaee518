import Gatehouse.Proofs.Http.HostName
import Gatehouse.Proofs.Routing.Dispatch

namespace Gatehouse.Routing

open Http

/-!
# Hosts under their names

A host is registered under names, and requests name the host that they are for. The check of a
registry admits any name that is not blank, while a request never names a host with a port. So a
host may have names under which no request ever comes to it.

* `Registry.LastNamed`, `SentTo` — the last host registered under a name, and the requests that
  carry the name;
* `Registry.ServesItsNames`, `not_servesItsNames` — requests with the name of a host do not always
  come to that host;
* `build_serves_plain_name` — they do when the name is plain, and with a port they are for the host
  whose name stands before it.
-/

/-- The host is the last one of the registry that answers to the name, which is one of its own. -/
def Registry.LastNamed (r : Registry) (h : VirtualHost) (name : String) : Prop :=
  name ∈ h.names ∧ ∃ before after, r.hosts = before ++ h :: after ∧
    ∀ later ∈ after, ¬ later.AnswersTo name

/-- The request carries the name as its host. -/
def SentTo (name : String) (request : Request) : Prop :=
  request.headers.first? .host = some (Utf8.bytes name)

/-! ### Names that are not read back -/

/-- Every request that carries the name of a host, as far as it can be a field value, is served by
    the last host registered under it. -/
def Registry.ServesItsNames (r : Registry) : Prop :=
  ∀ handler h name request, build r = .ok handler → r.LastNamed h name →
    isValue (Utf8.bytes name) = true → SentTo name request → ServedBy handler h request

/-- A host that answers everything in front of its paths, under a label. -/
def frontOf (label : String) (h : VirtualHost) : VirtualHost :=
  h.addWrapper (Interceptor.wrap label (.block (.answered (.ofStatus .ok))))

/-- A host registered under a name with a port. -/
def portedShop : VirtualHost := frontOf "shop" (VirtualHost.named.addName "shop.test:8080")

/-- A request that carries the name with the port. -/
def toPortedShop : Request :=
  .ofClient .get .root .http11 (Headers.empty.append .host (Utf8.bytes "shop.test:8080")) .empty

/-- The port is taken off the name that the request carries, and no host is registered under what is
    left, so the request comes to the default host. -/
theorem not_servesItsNames : ¬ ∀ r : Registry, r.ServesItsNames := by
  intro h
  let r : Registry := ⟨[frontOf "home" .catchAll, portedShop]⟩
  have hbuild : build r = .ok (root (dispatch (hostTable r))) := rfl
  have hnamed : r.LastNamed portedShop "shop.test:8080" :=
    ⟨List.mem_singleton_self _, [frontOf "home" .catchAll], [], rfl,
      fun later hlater => absurd hlater List.not_mem_nil⟩
  have hsent : SentTo "shop.test:8080" toPortedShop := rfl
  have hserved := h r _ _ _ _ hbuild hnamed (by decide) hsent (Stage.readCookies toPortedShop) rfl
  -- The one host is entered, the other would have been.
  have hvisits : [Visit.wrapper "home"] = [Visit.wrapper "shop"] := congrArg Run.visits hserved
  simp at hvisits

/-! ### Names that are read back -/

/-- The host that a request with the name is for: what the name says, or where it is not readable as
    text, the authority that the request is sent to. -/
theorem host_of_sentTo {name : String} {request : Request} (hsent : SentTo name request) :
    request.host = if name.toList.all isTextChar then hostName? name.toList
      else request.target.authority.bind fun authority => hostName? authority.toList := by
  rw [Request.host, Request.hostText?, hsent, Option.bind_some, Utf8.bytes, valueText?_encode]
  by_cases htext : name.toList.all isTextChar = true
  · rw [if_pos htext, if_pos htext, Option.bind_some]
  · rw [if_neg htext, if_neg htext, Option.bind_map]
    rfl

/-- A name and its form in lower case are the same name. -/
theorem sameName_lower (name : String) :
    SameName name (String.ofList (Text.lower name.toList)) := by
  rw [SameName, String.toList_ofList, Utf8.lower_lower]

/-- The last host registered under a name serves the requests for the name in lower case. -/
theorem Registry.LastNamed.serves {r : Registry} {h : VirtualHost} {name : String}
    (hnamed : r.LastNamed h name) :
    r.Serves (some (String.ofList (Text.lower name.toList))) h := by
  obtain ⟨hmem, before, after, hsplit, hafter⟩ := hnamed
  refine .named rfl hsplit ⟨name, hmem, sameName_lower name⟩ ?_
  rintro later hlater ⟨own, hown, hsame⟩
  exact hafter later hlater ⟨own, hown, hsame.trans (sameName_lower name).symm⟩

/-- No name of an accepted registry is empty. -/
theorem Registry.LastNamed.ne_nil {r : Registry} {h : VirtualHost} {name : String}
    (hnamed : r.LastNamed h name) (hcheck : r.check = .ok ()) : name.toList ≠ [] := by
  obtain ⟨hmem, before, after, hsplit, -⟩ := hnamed
  have hhost : h.check = .ok () := ((Registry.check_eq_ok_iff r).1 hcheck).2 h (by simp [hsplit])
  intro hnil
  have hblank := ((VirtualHost.check_eq_ok_iff h).1 hhost).2.1 name hmem
  rw [Text.isBlankText, hnil] at hblank
  exact absurd hblank (by decide)

/-- A request that carries the name of a host is served by that host when the name is plain. Other
    names do not name their host: a request with such a name is for the host that the name says,
    which is without the blanks at its ends and without its port, or, where the name is not readable
    as text, for the authority that the request is sent to. -/
theorem build_serves_plain_name {r : Registry} {handler : Handler} {h : VirtualHost} {name : String}
    {request : Request} (hbuild : build r = .ok handler) (hnamed : r.LastNamed h name)
    (hsent : SentTo name request) :
    (IsPlainName name.toList → ServedBy handler h request) ∧
    ∃ other ∈ r.hosts, r.Serves request.host other ∧ ServedBy handler other request ∧
      ((∀ c ∈ name.toList, isTextChar c = true) →
        ∃ host, HostIn name.toList host ∧ request.host = named? host) ∧
      ((∃ c ∈ name.toList, isTextChar c = false) →
        request.host = request.target.authority.bind fun authority =>
          hostName? authority.toList) := by
  have hcheck : r.check = .ok () := ((build_eq_ok_iff r handler).1 hbuild).1
  have hhost := host_of_sentTo hsent
  constructor
  · intro hplain
    have hname : request.host = some (String.ofList (Text.lower name.toList)) := by
      rw [hhost, if_pos (List.all_eq_true.2 hplain.text), hostName?_of_hostIn hplain.hostIn, named?,
        if_neg (hnamed.ne_nil hcheck)]
    exact servedBy_of_serves hbuild (by rw [hname]; exact hnamed.serves)
  · obtain ⟨other, hother, hserves, -⟩ := Registry.exists_serves hcheck request.host
    refine ⟨other, hother, hserves, servedBy_of_serves hbuild hserves, ?_, ?_⟩
    · intro htext
      have hin := hostIn_iff.2 (Eq.refl (stripPort (Text.trim name.toList)))
      rw [hhost, if_pos (List.all_eq_true.2 htext), hostName?_of_hostIn hin]
      exact ⟨_, hin, rfl⟩
    · rintro ⟨c, hc, hchar⟩
      have hunread : ¬ name.toList.all isTextChar = true := by
        intro hall
        have htext := List.all_eq_true.1 hall c hc
        rw [hchar] at htext
        cases htext
      rw [hhost, if_neg hunread]

/-- A host under a name that another host has in other letter case. -/
def laterShop : VirtualHost := frontOf "later" (VirtualHost.named.addName "Shop.Test")

/-- The default host and two hosts that share their name. -/
def sharedName : Registry :=
  ⟨[frontOf "home" .catchAll, frontOf "earlier" (VirtualHost.named.addName "shop.test"), laterShop]⟩

/-- A request that carries the name as the later of the two hosts registered it. -/
def toLaterShop : Request :=
  .ofClient .get .root .http11 (Headers.empty.append .host (Utf8.bytes "Shop.Test")) .empty

/-- The later of two hosts that share their name serves the requests that carry it. -/
theorem build_serves_plain_name_shared :
    ∃ handler, build sharedName = .ok handler ∧
      (handler toLaterShop).visits = [.wrapper "later"] := by
  have hbuild := (build_eq_ok_iff sharedName _).2 ⟨rfl, rfl⟩
  have hnamed : sharedName.LastNamed laterShop "Shop.Test" :=
    ⟨List.mem_singleton_self _, sharedName.hosts.take 2, [], rfl,
      fun later hlater => absurd hlater List.not_mem_nil⟩
  have hsent : SentTo "Shop.Test" toLaterShop := rfl
  have hplain : IsPlainName "Shop.Test".toList := by decide
  have hserved := (build_serves_plain_name hbuild hnamed hsent).1 hplain
  refine ⟨_, hbuild, ?_⟩
  rw [hserved _ rfl]
  rfl

end Gatehouse.Routing
