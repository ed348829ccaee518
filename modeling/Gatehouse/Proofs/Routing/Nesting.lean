import Gatehouse.Proofs.Routing.Dispatch

namespace Gatehouse

open Http

/-!
# Wrappers inside one another

The wrappers of a host stand around its paths like layers, the one registered first outermost. A
request goes in through them until one does not call what is inside, and what comes of it goes back
out through those it went in by.

* `Layer` — a wrapper under its label, by what it does;
* `Interceptor.passOn`, `Interceptor.passBack`, `wrap_of_callsInner` — one layer, on the way in and
  on the way out;
* `Passage`, `passage_foldr` — the way through any number of layers to a handler and back;
* `Routing.hostHandler_nests` — a host is the passage through its wrappers, in order of
  registration, to its paths and its fallback.
-/

/-! ### One layer -/

namespace Interceptor

/-- The request that the inner handler is called with. -/
def passOn : Interceptor → Request → Request
  | .editRequest edit, request => edit request
  | _, request => request

/-- What becomes of the outcome of the inner handler. -/
def passBack : Interceptor → Outcome → Outcome
  | .editResponse edit, .answered response => .answered (edit response)
  | .rescue answer, .failed error => answer error
  | _, outcome => outcome

variable (label : String) (inner : Handler) (request : Request)

/-- An interceptor that calls its inner handler is entered, passes the request on and passes the
    outcome back. -/
theorem wrap_of_callsInner {i : Interceptor} (h : i.callsInner = true) :
    i.wrap label inner request
      = ⟨.wrapper label :: (inner (i.passOn request)).visits,
          i.passBack (inner (i.passOn request)).outcome⟩ := by
  cases i with
  | pass => rfl
  | reply answer => cases h
  | editRequest edit => rfl
  | editResponse edit =>
    cases hrun : (inner request).outcome <;>
      simp [wrap, Run.entering, Run.mapResponse, passOn, passBack, hrun]
  | rescue answer =>
    cases hrun : (inner request).outcome <;>
      simp [wrap, Run.entering, passOn, passBack, hrun]

/-- An interceptor that answers itself is entered, whatever is inside. -/
theorem wrap_reply (answer : Request → Outcome) :
    (reply answer).wrap label inner request = ⟨[.wrapper label], answer request⟩ := rfl

/-- Only an answer of its own keeps an interceptor from calling its inner handler. -/
theorem exists_reply_of_not_callsInner {i : Interceptor} (h : i.callsInner = false) :
    ∃ answer, i = .reply answer := by
  cases i with
  | reply answer => exact ⟨answer, rfl⟩
  | pass => cases h
  | editRequest edit => cases h
  | editResponse edit => cases h
  | rescue answer => cases h

end Interceptor

/-! ### Layers around a handler -/

/-- A wrapper under its label, by what it does. -/
structure Layer where
  label : String
  interceptor : Interceptor

namespace Layer

/-- The layer as a wrapper. -/
def wrapper (l : Layer) : Wrapper := l.interceptor.wrap l.label

/-- What is seen of a layer that was entered. -/
def visit (l : Layer) : Visit := .wrapper l.label

/-- The request that comes out of layers on the way in, the first one entered first. -/
def passOn (layers : List Layer) (request : Request) : Request :=
  layers.foldl (fun request l => l.interceptor.passOn request) request

/-- The outcome that comes out of layers on the way out, the last one left first. -/
def passBack (layers : List Layer) (outcome : Outcome) : Outcome :=
  layers.foldr (fun l outcome => l.interceptor.passBack outcome) outcome

end Layer

/-- The run of a request through layers in front of a handler. Where every layer calls what is
    inside, all of them are entered in order, then the handler, and its outcome goes back through
    all of them. Otherwise the layers are entered up to the first that answers the request itself,
    as it was passed on by those in front of it, and its answer goes back through them. -/
inductive Passage (layers : List Layer) (handler : Handler) (request : Request) : Run → Prop where
  | through (calling : ∀ l ∈ layers, l.interceptor.callsInner = true) :
      Passage layers handler request
        ⟨layers.map Layer.visit ++ (handler (Layer.passOn layers request)).visits,
          Layer.passBack layers (handler (Layer.passOn layers request)).outcome⟩
  | stopped {before after : List Layer} {l : Layer} {answer : Request → Outcome}
      (split : layers = before ++ l :: after)
      (calling : ∀ b ∈ before, b.interceptor.callsInner = true)
      (answers : l.interceptor = .reply answer) :
      Passage layers handler request
        ⟨(before ++ [l]).map Layer.visit,
          Layer.passBack before (answer (Layer.passOn before request))⟩

/-- Wrapping a handler in layers, the last one first, lets requests pass through the first one
    first. -/
theorem passage_foldr (layers : List Layer) (handler : Handler) (request : Request) :
    Passage layers handler request
      ((layers.map Layer.wrapper).foldr (fun w inner => w inner) handler request) := by
  induction layers generalizing request with
  | nil => exact .through fun l hl => absurd hl List.not_mem_nil
  | cons l layers ih =>
    rw [List.map_cons, List.foldr_cons, Layer.wrapper]
    cases hcalls : l.interceptor.callsInner with
    | true =>
      rw [Interceptor.wrap_of_callsInner _ _ _ hcalls]
      -- Behind the first layer the request passes through the others as it was passed on.
      have hrest := ih (l.interceptor.passOn request)
      generalize (layers.map Layer.wrapper).foldr (fun w inner => w inner) handler
        (l.interceptor.passOn request) = run at hrest ⊢
      cases hrest with
      | through calling =>
        exact .through (List.forall_mem_cons.2 ⟨hcalls, calling⟩)
      | @stopped before after m answer split calling answers =>
        have hsplit : l :: layers = (l :: before) ++ m :: after := by rw [split]; rfl
        exact .stopped hsplit (List.forall_mem_cons.2 ⟨hcalls, calling⟩) answers
    | false =>
      obtain ⟨answer, hanswers⟩ := Interceptor.exists_reply_of_not_callsInner hcalls
      rw [hanswers, Interceptor.wrap_reply]
      have hsplit : l :: layers = [] ++ l :: layers := rfl
      exact .stopped hsplit (fun b hb => absurd hb List.not_mem_nil) hanswers

end Gatehouse

namespace Gatehouse.Routing

open Http

/-! ### Hosts -/

/-- The host without its wrappers, made of its paths and its fallback. -/
def VirtualHost.bare (h : VirtualHost) : HostPlan :=
  ⟨h.isDefault, h.paths.map (fun p => .path p.1 p.2) ++ [.fallback h.fallback]⟩

theorem VirtualHost.routes_bare (h : VirtualHost) :
    h.bare.routes = h.paths.map (Prod.map id (·.handler)) := by
  simp [bare, HostPlan.routes, HostPlan.registered, List.filterMap_map]

theorem VirtualHost.fallback_bare (h : VirtualHost) : h.bare.fallback = h.fallback := by
  simp [bare, HostPlan.fallback, List.filterMap_map]

/-- A host is its wrappers, in order of registration and the first one outermost, around what its
    paths and its fallback pick. So a request passes through its wrappers, and where one does not
    call what is inside, no later wrapper, no path and no fallback is entered. -/
theorem hostHandler_nests {p : HostPlan} {layers : List Layer}
    (hlayers : p.wrappers = layers.map Layer.wrapper) :
    ∃ route : Handler, (∀ seen, p.host.bare.Picks seen (route seen)) ∧
      hostHandler p.host = p.wrappers.foldr (fun w inner => w inner) route ∧
      ∀ request, Passage layers route request (hostHandler p.host request) := by
  let route : Handler := pathHandler (.ofRoutes p.host.bare.routes) p.host.bare.fallback.handler
  have hhost : hostHandler p.host = p.wrappers.foldr (fun w inner => w inner) route := by
    rw [hostHandler, HostPlan.wrappers_host, pathTable_eq_ofRoutes, ← VirtualHost.routes_bare,
      ← VirtualHost.fallback_bare]
  refine ⟨route, p.host.bare.picks_pathHandler, hhost, fun request => ?_⟩
  rw [hhost, hlayers]
  exact passage_foldr layers route request

/-- Failures are answered with status 401, answers are tagged, and nobody is let in. -/
def guards : List Layer :=
  [⟨"rescue", .rescue fun _ => .answered (.ofStatus ⟨401⟩)⟩,
    ⟨"tag", .addField .contentType (Utf8.bytes "text/plain")⟩,
    ⟨"deny", .block (.failed (.handler "denied"))⟩,
    ⟨"log", .pass⟩]

/-- A host with a path and a fallback behind these wrappers. -/
def guarded : HostPlan :=
  ⟨true, .path "/" (endpoint "home") :: guards.map (fun l => .wrapper l.wrapper) ++
    [.fallback (endpoint "lost")]⟩

/-- The request gets as far as the wrapper that denies it; the error is not tagged on the way back,
    and what answers it is outermost. -/
theorem hostHandler_nests_guarded :
    guarded.wrappers = guards.map Layer.wrapper ∧
      (∃ route : Handler, Passage guards route toShop (hostHandler guarded.host toShop)) ∧
      hostHandler guarded.host toShop
        = ⟨[.wrapper "rescue", .wrapper "tag", .wrapper "deny"], .answered (.ofStatus ⟨401⟩)⟩ := by
  have hlayers : guarded.wrappers = guards.map Layer.wrapper := rfl
  obtain ⟨route, -, -, hpass⟩ := hostHandler_nests hlayers
  exact ⟨hlayers, ⟨route, hpass toShop⟩, rfl⟩

end Gatehouse.Routing
