import Gatehouse.Proofs.Routing.Registration
import Gatehouse.Proofs.Stage.Passing

namespace Gatehouse.Routing

open Http

/-!
# Dispatch to one host

A request that reaches the choice of host runs through the wrappers and the paths of one host only.
Registries are read by the plans of their hosts, see `Registry.exists_plans_of_edits`.

* `HostPlan.Picks` — the run that the paths of a host make of a request;
* `StaysWithin`, `HostPlan.Confined` — handlers and hosts by what they enter;
* `staysWithin_script`, `staysWithin_wrap` — scripts and interceptors enter nothing but themselves
  and their inner handler;
* `ServedBy`, `servedBy_of_serves` — the host that runs a request;
* `build_dispatches` — the handler of a registry, host by host.
-/

/-! ### The paths of a host -/

/-- The run of the paths of a host: that of the handler registered last under the longest prefix
    that covers the path, or that of the fallback when no prefix covers it. -/
inductive HostPlan.Picks (p : HostPlan) (request : Request) : Run → Prop where
  | route {key : List Char} {handler : Handler}
      (cover : IsLongestCover (filedKeys p.routes) request.target.path.toList key)
      (last : lastUnder? (filings p.routes) key = some handler) :
      Picks p request (handler (withResolved request key))
  | fallback (uncovered : ∀ key ∈ filedKeys p.routes, ¬ Covers key request.target.path.toList) :
      Picks p request (p.fallback.handler request)

/-- The path table of a host picks the run. -/
theorem HostPlan.picks_pathHandler (p : HostPlan) (request : Request) :
    p.Picks request (pathHandler (.ofRoutes p.routes) p.fallback.handler request) := by
  rw [pathHandler]
  cases h : (PathTable.ofRoutes p.routes).resolve? request.target.path with
  | none => exact .fallback ((PathTable.resolve?_ofRoutes_eq_none_iff _ _).1 h)
  | some hit =>
    obtain ⟨hlong, hlast⟩ := PathTable.isLongestCover_of_resolve? h
    exact .route hlong hlast

/-! ### What a handler enters -/

/-- Every run of the handler enters only what is allowed. -/
def StaysWithin (allowed : Visit → Prop) (handler : Handler) : Prop :=
  ∀ request, ∀ visit ∈ (handler request).visits, allowed visit

/-- A script enters itself. -/
theorem staysWithin_script {allowed : Visit → Prop} (s : Script)
    (h : ∀ seen, allowed (.handler s.label seen)) : StaysWithin allowed s.handler := by
  intro request visit hvisit
  rw [List.mem_singleton.1 hvisit]
  exact h request

/-- The handler that answers with status 404 enters nothing. -/
theorem staysWithin_notFound (allowed : Visit → Prop) : StaysWithin allowed notFoundHandler :=
  fun _ _ hvisit => absurd hvisit List.not_mem_nil

/-- An interceptor enters itself and what its inner handler enters. -/
theorem staysWithin_wrap {allowed : Visit → Prop} {label : String} (i : Interceptor)
    (h : allowed (.wrapper label)) {inner : Handler} (hinner : StaysWithin allowed inner) :
    StaysWithin allowed (i.wrap label inner) := by
  intro request visit hvisit
  simp only [Interceptor.wrap, Run.visits_entering, List.mem_cons] at hvisit
  rcases hvisit with rfl | hvisit
  · exact h
  -- What is entered beyond the interceptor itself, its inner handler enters on some request.
  · cases i with
    | pass => exact hinner request visit hvisit
    | reply answer => exact absurd hvisit List.not_mem_nil
    | editRequest edit => exact hinner (edit request) visit hvisit
    | editResponse edit =>
      simp only [Run.visits_mapResponse] at hvisit
      exact hinner request visit hvisit
    | rescue answer =>
      refine hinner request visit ?_
      revert hvisit
      simp only
      split <;> exact id

/-- The handlers registered last under their prefixes, the fallback and the wrappers of a host enter
    only what is allowed, the wrappers as long as their inner handler does. -/
structure HostPlan.Confined (p : HostPlan) (allowed : Visit → Prop) : Prop where
  routes : ∀ key handler, lastUnder? (filings p.routes) key = some handler →
    StaysWithin allowed handler
  fallback : StaysWithin allowed p.fallback.handler
  wrappers : ∀ w ∈ p.wrappers, ∀ inner, StaysWithin allowed inner → StaysWithin allowed (w inner)

/-- The run that a confined host picks is confined. -/
theorem HostPlan.Confined.of_picks {p : HostPlan} {allowed : Visit → Prop} {request : Request}
    {run : Run} (h : p.Confined allowed) (hpick : p.Picks request run) :
    ∀ visit ∈ run.visits, allowed visit := by
  cases hpick with
  | @route key handler cover last => exact h.routes key handler last _
  | fallback => exact h.fallback request

/-- What is kept by every wrapper of a host is kept by all of them. -/
theorem foldr_wrappers {P : Handler → Prop} {ws : List Wrapper} {handler : Handler}
    (hws : ∀ w ∈ ws, ∀ inner, P inner → P (w inner)) (hh : P handler) :
    P (ws.foldr (fun w inner => w inner) handler) := by
  induction ws with
  | nil => exact hh
  | cons w ws ih =>
    exact hws w List.mem_cons_self _ (ih fun v hv => hws v (List.mem_cons_of_mem w hv))

/-! ### The handler of a registry -/

/-- Whatever the form stage hands on of the request is run by the host, and nothing else is. -/
def ServedBy (handler : Handler) (h : VirtualHost) (request : Request) : Prop :=
  ∀ passed, Stage.handedOn? (Stage.readCookies request) = some passed →
    handler request = Stage.finish (hostHandler h passed)

/-- A request is served by the host that its host name leads to. -/
theorem servedBy_of_serves {r : Registry} {handler : Handler} {request : Request} {h : VirtualHost}
    (hbuild : build r = .ok handler) (hserves : r.Serves request.host h) :
    ServedBy handler h request := by
  obtain ⟨hcheck, hroot⟩ := (build_eq_ok_iff _ _).1 hbuild
  obtain ⟨other, -, hother, hresolve⟩ := Registry.exists_serves hcheck request.host
  intro passed hpassed
  -- The host is chosen by the request handed on, which has the host name of the request sent.
  rw [← hroot, Stage.root_of_handedOn? _ hpassed, dispatch, Stage.host_of_handedOn? hpassed,
    hresolve, hother.unique hserves]

/-- The handler of a planned host: its wrappers around its paths. -/
theorem HostPlan.hostHandler_host {p : HostPlan} (h : p.host.check = .ok ()) :
    hostHandler p.host
      = p.wrappers.foldr (fun w inner => w inner)
          (pathHandler (.ofRoutes p.routes) p.fallback.handler) := by
  rw [hostHandler, wrappers_host, fallback_host, pathTable_host (ne_empty_of_check h)]

/-- A request that is handed on is run by the host that serves the name it was sent to. -/
theorem exists_plan_of_handedOn {plans : List HostPlan} {handler : Handler}
    {request passed : Request} (hbuild : build (.ofPlans plans) = .ok handler)
    (hpassed : Stage.handedOn? (Stage.readCookies request) = some passed) :
    ∃ plan ∈ plans, (Registry.ofPlans plans).Serves request.host plan.host ∧
      handler request = Stage.finish (plan.wrappers.foldr (fun w inner => w inner)
        (pathHandler (.ofRoutes plan.routes) plan.fallback.handler) passed) := by
  obtain ⟨hcheck, -⟩ := (build_eq_ok_iff _ _).1 hbuild
  obtain ⟨h, hmem, hserves, -⟩ := Registry.exists_serves hcheck request.host
  obtain ⟨plan, hplan, rfl⟩ := List.mem_map.1 hmem
  have hhost : plan.host.check = .ok () := ((Registry.check_eq_ok_iff _).1 hcheck).2 _ hmem
  refine ⟨plan, hplan, hserves, ?_⟩
  rw [servedBy_of_serves hbuild hserves passed hpassed, HostPlan.hostHandler_host hhost]

/-- A request that is handed on to the choice of host is served by the host of its name: by the
    wrappers of that host around its own paths, whatever the wrappers do to the request. Nothing
    that this host does not enter itself is entered. -/
theorem build_dispatches {plans : List HostPlan} {handler : Handler} {request passed : Request}
    (hbuild : build (.ofPlans plans) = .ok handler)
    (hpassed : Stage.handedOn? (Stage.readCookies request) = some passed) :
    ∃ plan ∈ plans, (Registry.ofPlans plans).Serves request.host plan.host ∧
      (∃ route : Handler, (∀ seen, plan.Picks seen (route seen)) ∧
        handler request
          = Stage.finish (plan.wrappers.foldr (fun w inner => w inner) route passed)) ∧
      ∀ allowed, plan.Confined allowed → ∀ visit ∈ (handler request).visits, allowed visit := by
  obtain ⟨plan, hplan, hserves, hrun⟩ := exists_plan_of_handedOn hbuild hpassed
  let route : Handler := pathHandler (.ofRoutes plan.routes) plan.fallback.handler
  have hpicks : ∀ seen, plan.Picks seen (route seen) := plan.picks_pathHandler
  refine ⟨plan, hplan, hserves, ⟨route, hpicks, hrun⟩, ?_⟩
  intro allowed hconf visit hvisit
  rw [hrun, Stage.visits_finish] at hvisit
  have hroute : StaysWithin allowed route := fun seen => hconf.of_picks (hpicks seen)
  exact foldr_wrappers (P := StaysWithin allowed) hconf.wrappers hroute passed visit hvisit

/-- An endpoint with a label of its own. -/
def endpoint (label : String) : Endpoint := ⟨some label, labelled label⟩

/-- A host under the name that another one already has, in other letter case, which sends every
    request on with another host name. -/
def secondShop : HostPlan :=
  ⟨false, [.wrapper (Interceptor.wrap "rewrite" (.setHost (Utf8.bytes "blog.test"))),
    .path "v1/" (endpoint "second"), .name "Shop.Test"]⟩

/-- A default host, and three hosts of which two share their name. -/
def twoShops : List HostPlan :=
  [⟨true, [.path "/" (endpoint "home")]⟩,
    ⟨false, [.name "shop.test", .path "/v1/users" (endpoint "first")]⟩,
    secondShop,
    ⟨false, [.name "blog.test", .path "/v1" (endpoint "blog")]⟩]

/-- A request to the shops. -/
def toShop : Request :=
  .ofClient .get { Target.root with path := "/v1/users" } .http11
    (Headers.empty.append .host (Utf8.bytes "SHOP.test:80")) .empty

/-- The later of two hosts of one name serves it alone, though its wrapper changes the host name and
    another host has a longer path. -/
theorem build_dispatches_twoShops :
    ∃ handler, build (.ofPlans twoShops) = .ok handler ∧
      ∀ visit ∈ (handler toShop).visits,
        visit = .wrapper "rewrite" ∨ ∃ seen, visit = .handler "second" seen := by
  have hbuild := (build_eq_ok_iff (.ofPlans twoShops) _).2 ⟨by rfl, rfl⟩
  have hpassed : Stage.handedOn? (Stage.readCookies toShop) = some (Stage.readCookies toShop) := by
    rfl
  refine ⟨_, hbuild, ?_⟩
  obtain ⟨plan, hplan, hserves, -, hconf⟩ := build_dispatches hbuild hpassed
  -- The second shop is the last host of the name, whatever its letter case.
  have hhost : toShop.host = some "shop.test" := by decide
  have hsplit : (Registry.ofPlans twoShops).hosts
      = (twoShops.take 2).map HostPlan.host
        ++ secondShop.host :: (twoShops.drop 3).map HostPlan.host := rfl
  have hsecond : plan.host = secondShop.host :=
    hserves.unique (.named hhost hsplit (by decide) (by decide))
  have hnames : plan.names = ["Shop.Test"] := by
    rw [← HostPlan.names_host, hsecond]
    rfl
  have hplan : plan = secondShop := by
    simp only [twoShops, List.mem_cons, List.not_mem_nil, or_false] at hplan
    rcases hplan with rfl | rfl | rfl | rfl
    · simp [HostPlan.names] at hnames
    · simp [HostPlan.names] at hnames
    · rfl
    · simp [HostPlan.names] at hnames
  subst hplan
  refine hconf _ ⟨?_, staysWithin_notFound _, ?_⟩
  · intro key handler hlast
    have hmem : (key, handler) ∈ [("/v1".toList, labelled "second")] := mem_of_lastUnder? hlast
    obtain ⟨-, rfl⟩ := Prod.mk.inj (List.mem_singleton.1 hmem)
    exact staysWithin_script _ fun seen => .inr ⟨seen, rfl⟩
  · intro w hw inner hinner
    rw [List.mem_singleton.1 hw]
    exact staysWithin_wrap _ (.inl rfl) hinner

end Gatehouse.Routing
