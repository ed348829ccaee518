import Gatehouse.Proofs.Routing.Dispatch
import Gatehouse.Proofs.Text.Boundary

namespace Gatehouse.Stage

open Http Routing

/-!
# The root handler always answers

Handlers and wrappers may answer or fail as they like. Once the stages are around them, every
request is answered, and no error is answered without a page.

* `IsBareError` — an error without a body; pages are put in the place of these only;
* `Kept`, `Paged` — what becomes of a response on its way out, whether or not a page is rendered;
* `Answers` — how the stages come to their response; `Answers.not_isBareError`;
* `Returns`, `VirtualHost.Returns` — handlers and hosts that do not abort;
  `returns_script`, `returns_wrap` — those that are scripts and interceptors;
* `root_answers`, `build_answers` — the root handler of a registry answers.
-/

/-! ### Responses on their way out -/

/-- A response of status 400 or above that promises an empty body. -/
structure IsBareError (r : Response) : Prop where
  status : 400 ≤ r.status.code
  body : r.body.hint = .ofSize 0

/-- The fields that the cookies queued on a response are written as. -/
def cookieFields (r : Response) : List (FieldName × Bytes) :=
  (r.queued.filterMap Cookie.fieldValue?).map (FieldName.setCookie, ·)

/-- The fields that do not describe a body. -/
def otherFields (h : Headers) : List (FieldName × Bytes) :=
  h.fields.filter fun f => f.1 ≠ .contentType ∧ f.1 ≠ .contentLength

/-- A response that went out as it was, with the cookies queued on it written behind its fields. -/
structure Kept (r out : Response) : Prop where
  status : out.status = r.status
  version : out.version = r.version
  body : out.body = r.body
  headers : out.headers.fields = r.headers.fields ++ cookieFields r
  queued : out.queued = []

/-- A response that went out with a page for its body and with the fields that describe the page.
    It is otherwise as it was, its cookies written. -/
structure Paged (r out : Response) : Prop where
  status : out.status = r.status
  version : out.version = r.version
  body : out.body = .ofText (errorPage r.status)
  contentType : out.headers.getAll .contentType = [Utf8.bytes pageType]
  contentLength : out.headers.getAll .contentLength
    = [decimalValue (Utf8.bytes (errorPage r.status)).length]
  others : otherFields out.headers = otherFields r.headers ++ cookieFields r
  queued : out.queued = []

/-- How the stages around a handler come to their response to a request. -/
inductive Answers (inner : Handler) (request : Request) : Response → Prop where
  | unread {fault : Body.ReadFault} (unread : Unread request fault) :
      Answers inner request (errorResponse (refusal fault))
  | failed {passed : Request} {e : ServerError}
      (handed : handedOn? (readCookies request) = some passed)
      (failed : (inner passed).outcome = .failed e) :
      Answers inner request (errorResponse .internalServerError)
  | kept {passed : Request} {r out : Response}
      (handed : handedOn? (readCookies request) = some passed)
      (answered : (inner passed).outcome = .answered r) (notBare : ¬ IsBareError r)
      (kept : Kept r out) : Answers inner request out
  | paged {passed : Request} {r out : Response}
      (handed : handedOn? (readCookies request) = some passed)
      (answered : (inner passed).outcome = .answered r) (bare : IsBareError r)
      (paged : Paged r out) : Answers inner request out

/-! ### Pages and cookies -/

/-- The test of the error page stage. -/
theorem isBareError_iff (r : Response) :
    (r.status.isError && r.body.isKnownEmpty) = true ↔ IsBareError r := by
  -- A known size of zero means that both bounds are zero.
  obtain ⟨⟨code⟩, version, headers, ⟨frames, ⟨lower, upper⟩, failure⟩, queued⟩ := r
  simp only [Status.isError, Body.isKnownEmpty, SizeHint.known?, Bool.and_eq_true,
    decide_eq_true_eq, beq_iff_eq, Option.ite_none_right_eq_some, Option.some.injEq]
  constructor
  · rintro ⟨hcode, rfl, rfl⟩
    exact ⟨hcode, rfl⟩
  · rintro ⟨hcode, hhint⟩
    obtain ⟨rfl, rfl⟩ := SizeHint.mk.inj hhint
    exact ⟨hcode, rfl, rfl⟩

theorem length_bytes_append_pos (s : String) {t : String} (ht : t ≠ "") :
    0 < (Utf8.bytes (s ++ t)).length := by
  rw [Utf8.bytes, Utf8.length_encode, String.toList_append, Utf8.size_append]
  have hsize := Utf8.size_pos_of_ne_nil (mt String.toList_eq_nil_iff.1 ht)
  omega

/-- A page holds something. -/
theorem length_errorPage_pos (status : Status) : 0 < (Utf8.bytes (errorPage status)).length :=
  length_bytes_append_pos _ (by decide : "</body></html>" ≠ "")

/-- A body that holds a page does not promise to be empty. -/
theorem hint_errorPage_ne (status : Status) :
    (Body.ofText (errorPage status)).hint ≠ .ofSize 0 := by
  have hpage := length_errorPage_pos status
  intro hempty
  rw [Body.ofText, Body.hint_full] at hempty
  simp only [SizeHint.ofSize, SizeHint.mk.injEq] at hempty
  omega

/-- Values added under one name come last, in order. -/
theorem fields_foldl_append (name : FieldName) (values : List Bytes) (h : Headers) :
    (values.foldl (fun h v => h.append name v) h).fields
      = h.fields ++ values.map (name, ·) := by
  induction values generalizing h with
  | nil => simp
  | cons v values ih =>
    rw [List.foldl_cons, ih, Headers.append, List.append_assoc]
    rfl

/-- Writing cookies adds their fields. -/
theorem kept_writeCookies (r : Response) : Kept r (writeCookies r) :=
  ⟨rfl, rfl, rfl, fields_foldl_append _ _ _, rfl⟩

theorem name_of_mem_cookieFields {r : Response} {f : FieldName × Bytes} (h : f ∈ cookieFields r) :
    f.1 = .setCookie := by
  obtain ⟨value, -, rfl⟩ := List.mem_map.1 h
  rfl

/-- Writing cookies does not touch the values of other names. -/
theorem getAll_writeCookies_of_ne (r : Response) {name : FieldName} (h : name ≠ .setCookie) :
    (writeCookies r).headers.getAll name = r.headers.getAll name := by
  have hnone :
      (cookieFields r).filterMap (fun f => if f.1 = name then some f.2 else none) = [] := by
    refine List.filterMap_eq_nil_iff.2 fun f hf => ?_
    rw [if_neg (by rw [name_of_mem_cookieFields hf]; exact h.symm)]
  rw [Headers.getAll, (kept_writeCookies r).headers, List.filterMap_append]
  exact (congrArg _ hnone).trans (List.append_nil _)

/-- Cookies add no field that describes a body. -/
theorem otherFields_writeCookies (r : Response) :
    otherFields (writeCookies r).headers = otherFields r.headers ++ cookieFields r := by
  have hall : (cookieFields r).filter (fun f => f.1 ≠ .contentType ∧ f.1 ≠ .contentLength)
      = cookieFields r := by
    refine List.filter_eq_self.2 fun f hf => ?_
    rw [name_of_mem_cookieFields hf]
    decide
  rw [otherFields, (kept_writeCookies r).headers, List.filter_append, hall, otherFields]

/-- A field that describes a body replaces only fields that do so. -/
theorem otherFields_insert (h : Headers) {name : FieldName} (value : Bytes)
    (hname : name = .contentType ∨ name = .contentLength) :
    otherFields (h.insert name value) = otherFields h := by
  have hremoved : ∀ f ∈ h.fields, (f.1 ≠ FieldName.contentType ∧ f.1 ≠ .contentLength) →
      f.1 ≠ name := by
    rintro f - ⟨htype, hlength⟩ rfl
    exact hname.elim htype hlength
  have hlast : ([(name, value)].filter fun f => f.1 ≠ .contentType ∧ f.1 ≠ .contentLength)
      = [] := by
    rcases hname with rfl | rfl <;> simp
  -- The field is removed wherever it stands, and the new one, which stands last, is not counted.
  simp only [otherFields, Headers.insert, Headers.append, Headers.remove, List.filter_append,
    List.filter_filter]
  rw [hlast, List.append_nil]
  refine List.filter_congr fun f hf => ?_
  by_cases hother : f.1 ≠ FieldName.contentType ∧ f.1 ≠ .contentLength
  · simp [hother, hremoved f hf hother]
  · simp [hother]

/-- A page leaves the fields alone that do not describe a body. -/
theorem otherFields_renderPage (r : Response) :
    otherFields (renderPage r).headers = otherFields r.headers := by
  rw [renderPage, otherFields_insert _ _ (.inr rfl), otherFields_insert _ _ (.inl rfl)]

/-- A response without a page leaves the stages as it was. -/
theorem kept_of_not_isBareError {r : Response} (h : ¬ IsBareError r) :
    Kept r (writeCookies (pageIfBare r)) := by
  have htest : ¬ (r.status.isError && r.body.isKnownEmpty) = true := mt (isBareError_iff r).1 h
  rw [pageIfBare, if_neg htest]
  exact kept_writeCookies r

/-- A bare error leaves the stages with its page. -/
theorem paged_of_isBareError {r : Response} (h : IsBareError r) :
    Paged r (writeCookies (pageIfBare r)) := by
  have htest : (r.status.isError && r.body.isKnownEmpty) = true := (isBareError_iff r).2 h
  have hkept := kept_writeCookies (renderPage r)
  have hbody : (renderPage r).body = .ofText (errorPage r.status) := rfl
  rw [pageIfBare, if_pos htest]
  refine ⟨hkept.status, hkept.version, hkept.body.trans hbody, ?_, ?_, ?_, hkept.queued⟩
  · rw [getAll_writeCookies_of_ne _ (by decide), getAll_contentType_renderPage]
  · rw [getAll_writeCookies_of_ne _ (by decide), getAll_contentLength_renderPage]
  · rw [otherFields_writeCookies, otherFields_renderPage]
    rfl

/-- The page of a status is no bare error, whatever the status. -/
theorem not_isBareError_errorResponse (status : Status) : ¬ IsBareError (errorResponse status) :=
  fun hbare => hint_errorPage_ne status hbare.body

/-- However the stages came to their response, it is no bare error. -/
theorem Answers.not_isBareError {inner : Handler} {request : Request} {out : Response}
    (h : Answers inner request out) : ¬ IsBareError out := by
  cases h with
  | unread unread => exact not_isBareError_errorResponse _
  | failed handed failed => exact not_isBareError_errorResponse _
  | @kept passed r out handed answered notBare kept =>
    intro hbare
    have hstatus := hbare.status
    have hbody := hbare.body
    rw [kept.status] at hstatus
    rw [kept.body] at hbody
    exact notBare ⟨hstatus, hbody⟩
  | @paged passed r out handed answered bare paged =>
    intro hbare
    have hbody := hbare.body
    rw [paged.body] at hbody
    exact hint_errorPage_ne r.status hbody

end Gatehouse.Stage

namespace Gatehouse

/-! ### Handlers that return -/

/-- The handler answers or fails every request, and never aborts. -/
def Returns (handler : Handler) : Prop :=
  ∀ request reason, (handler request).outcome ≠ .aborted reason

/-- What an interceptor may put in the place of an outcome is never an abort. -/
def Interceptor.Returns : Interceptor → Prop
  | .reply answer => ∀ request reason, answer request ≠ .aborted reason
  | .rescue answer => ∀ e reason, answer e ≠ .aborted reason
  | .pass | .editRequest _ | .editResponse _ => True

/-- A script returns unless it is one that aborts. -/
theorem returns_script {s : Script} (h : ∀ reason, s.outcome ≠ .aborted reason) :
    Returns s.handler := fun _ reason => h reason

/-- The handler that answers with status 404 returns. -/
theorem returns_notFound : Returns notFoundHandler := fun _ _ => nofun

/-- An interceptor that returns keeps a handler returning. -/
theorem returns_wrap {label : String} {i : Interceptor} (hi : i.Returns) {inner : Handler}
    (hinner : Returns inner) : Returns (i.wrap label inner) := by
  intro request reason
  cases i with
  | pass => exact hinner request reason
  | reply answer => exact hi request reason
  | editRequest edit => exact hinner (edit request) reason
  | editResponse edit =>
    cases hrun : (inner request).outcome with
    | answered r => simp [Interceptor.wrap, Run.mapResponse, hrun]
    | failed e => simp [Interceptor.wrap, Run.mapResponse, hrun]
    | aborted other => exact absurd hrun (hinner request other)
  | rescue answer =>
    cases hrun : (inner request).outcome with
    | answered r => simp [Interceptor.wrap, hrun]
    | failed e =>
      simp only [Interceptor.wrap, Run.outcome_entering, hrun]
      exact hi e reason
    | aborted other => exact absurd hrun (hinner request other)

end Gatehouse

namespace Gatehouse.Routing

open Http Stage

/-- The handlers of a host return, and its wrappers return as long as their inner handler does. -/
structure VirtualHost.Returns (h : VirtualHost) : Prop where
  paths : ∀ p ∈ h.paths, Gatehouse.Returns p.2.handler
  fallback : Gatehouse.Returns h.fallback.handler
  wrappers : ∀ w ∈ h.wrappers, ∀ inner, Gatehouse.Returns inner → Gatehouse.Returns (w inner)

/-- The paths of a host that returns lead to handlers that return. -/
theorem VirtualHost.Returns.pathHandler {h : VirtualHost} (hh : h.Returns) :
    Gatehouse.Returns (pathHandler (pathTable h) h.fallback.handler) := by
  intro request reason
  rw [Routing.pathHandler]
  cases hit : (pathTable h).resolve? request.target.path with
  | none => exact hh.fallback request reason
  | some found =>
    obtain ⟨key, handler⟩ := found
    rw [pathTable_eq_ofRoutes] at hit
    -- What was found under a prefix was registered.
    have hfiled := mem_of_lastUnder? (PathTable.isLongestCover_of_resolve? hit).2
    obtain ⟨route, hroute, hentry⟩ := List.mem_map.1 hfiled
    obtain ⟨p, hp, rfl⟩ := List.mem_map.1 hroute
    obtain ⟨-, rfl⟩ := Prod.mk.inj hentry
    exact hh.paths p hp _ reason

/-- A host that returns is a handler that returns. -/
theorem VirtualHost.Returns.hostHandler {h : VirtualHost} (hh : h.Returns) :
    Gatehouse.Returns (hostHandler h) :=
  foldr_wrappers (P := Gatehouse.Returns) hh.wrappers hh.pathHandler

/-- The choice among hosts that return is a handler that returns. -/
theorem returns_dispatch {r : Registry} (hcheck : r.check = .ok ())
    (hhosts : ∀ h ∈ r.hosts, h.Returns) : Gatehouse.Returns (dispatch (hostTable r)) := by
  intro request reason
  obtain ⟨h, hmem, -, hresolve⟩ := Registry.exists_serves hcheck request.host
  rw [dispatch, hresolve]
  exact (hhosts h hmem).hostHandler request reason

/-! ### The root handler -/

/-- Around a handler that returns, the root handler answers every request. -/
theorem root_answers {inner : Handler} (hinner : Returns inner) (request : Request) :
    ∃ out, (root inner request).outcome = .answered out ∧ Answers inner request out := by
  rcases handedOn_or_unread request with ⟨passed, hpassed⟩ | ⟨fault, hunread⟩
  -- The error pages see what the inner handler came to, the cookies what becomes of it.
  · rw [root_of_handedOn? inner hpassed]
    cases hrun : (inner passed).outcome with
    | answered r =>
      refine ⟨writeCookies (pageIfBare r), outcome_finish_of_answered hrun, ?_⟩
      by_cases hbare : IsBareError r
      · exact .paged hpassed hrun hbare (paged_of_isBareError hbare)
      · exact .kept hpassed hrun hbare (kept_of_not_isBareError hbare)
    | failed e =>
      refine ⟨errorResponse .internalServerError, ?_, .failed hpassed hrun⟩
      simp only [finish, Run.mapResponse, Run.recover, hrun]
      rfl
    | aborted reason => exact absurd hrun (hinner passed reason)
  · refine ⟨errorResponse (refusal fault), ?_, .unread hunread⟩
    rw [root_of_unread inner hunread]
    rfl

/-- The root handler of a registry answers every request: as the form stage does where it cannot
    read a form, and otherwise with what becomes of the outcome of the host. It is never a bare
    error that it answers with. -/
theorem build_answers {r : Registry} {handler : Handler} (hbuild : build r = .ok handler)
    (hhosts : ∀ h ∈ r.hosts, h.Returns) (request : Request) :
    ∃ out, (handler request).outcome = .answered out ∧ ¬ IsBareError out ∧
      Answers (dispatch (hostTable r)) request out := by
  obtain ⟨hcheck, rfl⟩ := (build_eq_ok_iff _ _).1 hbuild
  obtain ⟨out, hout, hanswers⟩ := root_answers (returns_dispatch hcheck hhosts) request
  exact ⟨out, hout, hanswers.not_isBareError, hanswers⟩

/-- Answers failures with an error that has no body but a cookie. -/
def forgiving : Interceptor :=
  .rescue fun _ => .answered ((Response.ofStatus .badRequest).addCookie (.plain "seen" "1"))

/-- A default host whose only handler fails, which one of its wrappers makes an answer of. -/
def shaky : Registry :=
  ⟨[⟨[], [("/", ⟨some "broken", Script.handler ⟨"broken", .failed (.handler "broken")⟩⟩)],
    [forgiving.wrap "forgiving"], true, .notFound⟩]⟩

/-- Its handlers and wrappers return, so every request is answered. -/
theorem build_answers_shaky :
    ∃ handler, build shaky = .ok handler ∧ (∀ h ∈ shaky.hosts, h.Returns) ∧
      ∃ out, (handler (.ofClient .get .root .http11 .empty .empty)).outcome = .answered out ∧
        ¬ IsBareError out := by
  have hbuild : build shaky = .ok (root (dispatch (hostTable shaky))) := rfl
  have hforgiving : forgiving.Returns := fun _ _ => nofun
  have hreturns : ∀ h ∈ shaky.hosts, h.Returns := by
    intro h hh
    obtain rfl := List.mem_singleton.1 hh
    refine ⟨fun p hp => ?_, returns_notFound, fun w hw inner hinner => ?_⟩
    · rw [List.mem_singleton.1 hp]
      exact returns_script fun _ => nofun
    · rw [List.mem_singleton.1 hw]
      exact returns_wrap hforgiving hinner
  obtain ⟨out, hout, hbare, -⟩ := build_answers hbuild hreturns
    (.ofClient .get .root .http11 .empty .empty)
  exact ⟨_, hbuild, hreturns, out, hout, hbare⟩

end Gatehouse.Routing
