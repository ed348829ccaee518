import Gatehouse.Proofs.Routing.Dispatch
import Mathlib.Data.List.TakeWhile

namespace Gatehouse.Routing

open Http Stage

/-!
# Delivery

Where no wrappers stand in between, the handler that is selected for a request sees the request that
was sent, and with it what the stages learned. A form is taken out of its body and put back, which
is the one place where a part of the request could get lost.

* `IsMediaOf`, `SendsForm` — requests that carry a form, by their fields; `isFormEncoded_iff`;
* `AnsweredByForms` — the requests that the form stage answers itself, and how;
* `HostPlan.Selects` — the handler that a host selects for a path;
* `IsUnseen`, `Sees` — a request before any stage has seen it, and what the handler sees of it;
* `build_delivers` — every request is answered by the form stage or delivered to one handler.
-/

/-! ### Forms -/

/-- The media type of a content type: all of it, or what comes before its first parameter. -/
def IsMediaOf (media text : List Char) : Prop :=
  ';' ∉ media ∧ (text = media ∨ ∃ parameters, text = media ++ ';' :: parameters)

/-- The first `Content-Type` value names the media type of forms, letter case and the blanks around
    it aside. -/
def SendsForm (h : Headers) : Prop :=
  ∃ value text media, h.first? .contentType = some value ∧ valueText? value = some text ∧
    IsMediaOf media text ∧ Text.lower (Text.trim media) = formType.toList

/-- A content type has one media type, which ends where the form stage cuts it. -/
theorem isMediaOf_iff (media text : List Char) :
    IsMediaOf media text ↔ text.takeWhile (· != ';') = media := by
  constructor
  · rintro ⟨hnone, hsplit⟩
    have hall : ∀ c ∈ media, (c != ';') = true := by
      intro c hc
      rw [bne_iff_ne]
      rintro rfl
      exact hnone hc
    rcases hsplit with rfl | ⟨parameters, rfl⟩
    · exact List.takeWhile_eq_self_iff.2 hall
    · rw [List.takeWhile_append_of_pos hall]
      simp
  · rintro rfl
    have hnone : ';' ∉ text.takeWhile (· != ';') := by
      intro hmem
      have hne := List.mem_takeWhile_imp hmem
      simp at hne
    refine ⟨hnone, ?_⟩
    -- What is left behind the cut is nothing, or starts with the semicolon.
    have hsplit : text.takeWhile (· != ';') ++ text.dropWhile (· != ';') = text :=
      List.takeWhile_append_dropWhile
    cases hrest : text.dropWhile (· != ';') with
    | nil =>
      rw [hrest, List.append_nil] at hsplit
      exact .inl hsplit.symm
    | cons c parameters =>
      have hsemi : c = ';' := by
        have hhead := List.head?_dropWhile_not (· != ';') text
        rw [hrest] at hhead
        simpa using hhead
      rw [hrest, hsemi] at hsplit
      exact .inr ⟨parameters, hsplit.symm⟩

/-- The form stage takes a request for a form exactly when it sends one. -/
theorem isFormEncoded_iff (r : Request) : isFormEncoded r = true ↔ SendsForm r.headers := by
  rw [isFormEncoded, Option.any_eq_true]
  simp only [namesForm, beq_iff_eq, Option.bind_eq_some_iff]
  constructor
  · rintro ⟨text, ⟨value, hvalue, htext⟩, hform⟩
    exact ⟨value, text, _, hvalue, htext, (isMediaOf_iff _ text).2 rfl, hform⟩
  · rintro ⟨value, text, media, hvalue, htext, hmedia, hform⟩
    refine ⟨text, ⟨value, hvalue, htext⟩, ?_⟩
    rw [(isMediaOf_iff media text).1 hmedia]
    exact hform

/-! ### Forms that are not delivered -/

/-- The run of a request whose form cannot be read: a page, and no handler was entered. -/
inductive AnsweredByForms (sent : Request) : Run → Prop where
  | tooLarge (form : SendsForm sent.headers) (large : maxFormSize < sent.body.bytes.length) :
      AnsweredByForms sent (.answer (errorResponse .payloadTooLarge))
  | failed {reason : String} (form : SendsForm sent.headers)
      (small : sent.body.bytes.length ≤ maxFormSize) (failure : sent.body.failure = some reason) :
      AnsweredByForms sent (.answer (errorResponse .badRequest))

/-- A body beyond the limit is too large, whatever comes behind the limit. -/
theorem contentUpTo_of_large {limit : Nat} {b : Body} (h : limit < b.bytes.length) :
    b.contentUpTo limit = .error .tooLarge := by
  have hfits : Body.fits limit b.frames = false := by
    rw [← Bool.not_eq_true, Body.fits_iff]
    exact Nat.not_le_of_lt h
  rw [Body.contentUpTo, hfits]
  rfl

/-- A body within the limit is read like any other, however its frames are cut. -/
theorem contentUpTo_of_small {limit : Nat} {b : Body} (h : b.bytes.length ≤ limit) :
    b.contentUpTo limit = b.content.mapError .failed := by
  have hfits : Body.fits limit b.frames = true := (Body.fits_iff limit b.frames).2 h
  rw [Body.contentUpTo, hfits, Body.content]
  cases b.failure <;> rfl

theorem content_eq_ok_iff (b : Body) (bytes : Bytes) :
    b.content = .ok bytes ↔ b.failure = none ∧ b.bytes = bytes := by
  rw [Body.content]
  cases b.failure <;> simp

theorem content_eq_error_iff (b : Body) (reason : String) :
    b.content = .error reason ↔ b.failure = some reason := by
  rw [Body.content]
  cases b.failure <;> simp

/-- What is read within a limit is the whole body. -/
theorem eq_of_contentUpTo {limit : Nat} {b : Body} {bytes : Bytes}
    (h : b.contentUpTo limit = .ok bytes) :
    b.bytes.length ≤ limit ∧ b.failure = none ∧ b.bytes = bytes := by
  rcases Nat.lt_or_ge limit b.bytes.length with hlarge | hsmall
  · rw [contentUpTo_of_large hlarge] at h
    cases h
  · rw [contentUpTo_of_small hsmall, Checks.mapError_eq_ok_iff, content_eq_ok_iff] at h
    exact ⟨hsmall, h⟩

/-- A form that cannot be read is answered for what it is: too large, or failing before that. -/
theorem AnsweredByForms.of_unread {sent : Request} {fault : Body.ReadFault}
    (h : Unread sent fault) : AnsweredByForms sent (.answer (errorResponse (refusal fault))) := by
  have hform : SendsForm sent.headers := (isFormEncoded_iff sent).1 h.form
  have hread := h.read
  rcases Nat.lt_or_ge maxFormSize sent.body.bytes.length with hlarge | hsmall
  · rw [contentUpTo_of_large hlarge] at hread
    obtain rfl := Except.error.inj hread
    exact .tooLarge hform hlarge
  · rw [contentUpTo_of_small hsmall, Checks.mapError_eq_error_iff] at hread
    obtain ⟨reason, hcontent, rfl⟩ := hread
    exact .failed hform hsmall ((content_eq_error_iff _ _).1 hcontent)

/-! ### What a handler sees -/

/-- No stage has seen the request. -/
structure IsUnseen (r : Request) : Prop where
  cookies : r.cookies = none
  form : r.form = none
  resolved : r.resolved = none

/-- What a handler sees of a request that was sent, given the prefix that it was routed on. The body
    of a form was read and put back, any other body is still to be read. -/
structure Sees (sent : Request) (key? : Option (List Char)) (seen : Request) : Prop where
  method : seen.method = sent.method
  target : seen.target = sent.target
  version : seen.version = sent.version
  headers : seen.headers = sent.headers
  connection : seen.connection = sent.connection
  bytes : seen.body.bytes = sent.body.bytes
  cookies : seen.cookies = some (.ofHeaders sent.headers)
  unread : ¬ SendsForm sent.headers → seen.body = sent.body ∧ seen.form = none
  readable : SendsForm sent.headers →
    sent.body.bytes.length ≤ maxFormSize ∧ sent.body.failure = none
  read : SendsForm sent.headers →
    seen.body = .full sent.body.bytes ∧ seen.form = some (.parse sent.body.bytes)
  resolved : seen.resolved = key?.map fun key =>
    ⟨String.ofList key, String.ofList (relativePart sent.target.path.toList key)⟩

/-- The common stages hand on what a handler is to see. -/
theorem Sees.of_handedOn {sent passed : Request} (hsent : IsUnseen sent)
    (h : handedOn? (readCookies sent) = some passed) : Sees sent none passed := by
  have hform := isFormEncoded_iff (readCookies sent)
  rw [handedOn?] at h
  cases hencoded : isFormEncoded (readCookies sent) with
  | false =>
    have hnot : ¬ SendsForm sent.headers := fun hsends => by
      rw [hform.2 hsends] at hencoded
      cases hencoded
    rw [hencoded] at h
    obtain rfl := Option.some.inj h
    exact ⟨rfl, rfl, rfl, rfl, rfl, rfl, rfl, fun _ => ⟨rfl, hsent.form⟩,
      fun hsends => absurd hsends hnot, fun hsends => absurd hsends hnot, hsent.resolved⟩
  | true =>
    have hsends : SendsForm sent.headers := hform.1 hencoded
    rw [hencoded] at h
    cases hread : (readCookies sent).body.contentUpTo maxFormSize with
    | error fault =>
      rw [hread] at h
      cases h
    | ok bytes =>
      rw [hread] at h
      obtain rfl := Option.some.inj h
      -- The bytes that are put back are those that were read.
      obtain ⟨hsmall, hwhole, rfl⟩ := eq_of_contentUpTo hread
      exact ⟨rfl, rfl, rfl, rfl, rfl, Body.bytes_full _, rfl, fun hnot => absurd hsends hnot,
        fun _ => ⟨hsmall, hwhole⟩, fun _ => ⟨rfl, rfl⟩, hsent.resolved⟩

/-- Routing adds the prefix and changes nothing else. -/
theorem Sees.withResolved {sent passed : Request} (h : Sees sent none passed) (key : List Char) :
    Sees sent (some key) (withResolved passed key) := by
  have hresolved : (Routing.withResolved passed key).resolved
      = some ⟨String.ofList key, String.ofList (relativePart sent.target.path.toList key)⟩ := by
    rw [← h.target]
    rfl
  exact ⟨h.method, h.target, h.version, h.headers, h.connection, h.bytes, h.cookies, h.unread,
    h.readable, h.read, hresolved⟩

/-! ### The handler of a host -/

/-- The handler that a host selects for a path, with the prefix it is registered under: the one
    registered last under the longest prefix that covers the path, or the fallback. -/
inductive HostPlan.Selects (p : HostPlan) (path : List Char) :
    Option (List Char) → Handler → Prop where
  | route {key : List Char} {handler : Handler}
      (cover : IsLongestCover (filedKeys p.routes) path key)
      (last : lastUnder? (filings p.routes) key = some handler) : Selects p path (some key) handler
  | fallback (uncovered : ∀ key ∈ filedKeys p.routes, ¬ Covers key path) :
      Selects p path none p.fallback.handler

/-- A handler is selected with a prefix exactly when some registered prefix covers the path. -/
theorem HostPlan.Selects.isSome_iff {p : HostPlan} {path : List Char} {key? : Option (List Char)}
    {handler : Handler} (h : p.Selects path key? handler) :
    key?.isSome = true ↔ ∃ key ∈ filedKeys p.routes, Covers key path := by
  cases h with
  | @route key handler cover last => exact iff_of_true rfl ⟨key, cover.mem, cover.covers⟩
  | fallback uncovered =>
    exact iff_of_false (by simp) fun ⟨key, hkey, hcovers⟩ => uncovered key hkey hcovers

/-- The paths of a host call the selected handler, once, with what it is to see. -/
theorem HostPlan.exists_selects (p : HostPlan) {sent passed : Request}
    (hpassed : Sees sent none passed) :
    ∃ key? selected seen, p.Selects sent.target.path.toList key? selected ∧ Sees sent key? seen ∧
      pathHandler (.ofRoutes p.routes) p.fallback.handler passed = selected seen := by
  have htarget : passed.target = sent.target := hpassed.target
  simp only [pathHandler, htarget]
  cases hit : (PathTable.ofRoutes p.routes).resolve? sent.target.path with
  | none =>
    have huncovered := (PathTable.resolve?_ofRoutes_eq_none_iff _ _).1 hit
    exact ⟨none, p.fallback.handler, passed, .fallback huncovered, hpassed, rfl⟩
  | some found =>
    obtain ⟨key, selected⟩ := found
    obtain ⟨hcover, hlast⟩ := PathTable.isLongestCover_of_resolve? hit
    exact ⟨some key, selected, withResolved passed key, .route hcover hlast,
      hpassed.withResolved key, rfl⟩

/-! ### Every request -/

/-- Behind hosts without wrappers, a request is answered by the form stage, without any handler, or
    it is delivered: the host that serves its name selects one handler, which is called once and
    sees the request as it was sent, along with the cookies, the form and the prefix. -/
theorem build_delivers {plans : List HostPlan} {handler : Handler} {sent : Request}
    (hbuild : build (.ofPlans plans) = .ok handler)
    (hwrappers : ∀ plan ∈ plans, plan.wrappers = []) (hsent : IsUnseen sent) :
    (AnsweredByForms sent (handler sent) ∧ (handler sent).visits = []) ∨
      ∃ plan ∈ plans, (Registry.ofPlans plans).Serves sent.host plan.host ∧
        ∃ key? selected seen,
          plan.Selects sent.target.path.toList key? selected ∧ Sees sent key? seen ∧
          handler sent = finish (selected seen) ∧
          (∀ s : Script, selected = s.handler →
            (handler sent).visits = [.handler s.label seen]) ∧
          (seen.resolved.isSome = true ↔
            ∃ key ∈ filedKeys plan.routes, Covers key sent.target.path.toList) := by
  rcases handedOn_or_unread sent with ⟨passed, hpassed⟩ | ⟨fault, hunread⟩
  · right
    obtain ⟨plan, hplan, hserves, hrun⟩ := exists_plan_of_handedOn hbuild hpassed
    rw [hwrappers plan hplan, List.foldr_nil] at hrun
    obtain ⟨key?, selected, seen, hselects, hsees, hcall⟩ :=
      plan.exists_selects (.of_handedOn hsent hpassed)
    rw [hcall] at hrun
    refine ⟨plan, hplan, hserves, key?, selected, seen, hselects, hsees, hrun, ?_, ?_⟩
    · rintro s rfl
      rw [hrun, visits_finish]
      rfl
    · rw [hsees.resolved, Option.isSome_map, hselects.isSome_iff]
  · left
    obtain ⟨-, hroot⟩ := (build_eq_ok_iff _ _).1 hbuild
    rw [← hroot, root_of_unread _ hunread]
    exact ⟨.of_unread hunread, rfl⟩

/-- A default host with one path. -/
def apiHost : HostPlan := ⟨true, [.path "api/" ⟨some "api", labelled "api"⟩]⟩

/-- A form in two frames, its media type in other letter case and with a parameter. -/
def toApi : Request :=
  .ofClient ⟨"POST"⟩ { Target.root with path := "/api/users" } .http11
    (Headers.empty.append .contentType
      (Utf8.bytes "Application/X-WWW-Form-Urlencoded; charset=UTF-8"))
    ⟨[Utf8.bytes "a=1&", Utf8.bytes "b=2"], .unknown, none⟩

/-- The handler of the path sees the form, and where it was routed. -/
theorem build_delivers_toApi :
    ∃ handler seen, build (.ofPlans [apiHost]) = .ok handler ∧
      (handler toApi).visits = [.handler "api" seen] ∧
      seen.body = .full (Utf8.bytes "a=1&b=2") ∧
      seen.form = some (.parse (Utf8.bytes "a=1&b=2")) ∧ seen.resolved.isSome = true := by
  have hbuild := (build_eq_ok_iff (.ofPlans [apiHost]) _).2 ⟨by rfl, rfl⟩
  have hsends : SendsForm toApi.headers := (isFormEncoded_iff toApi).1 (by decide +kernel)
  have hwrappers : ∀ plan ∈ [apiHost], plan.wrappers = [] := by
    intro plan hplan
    rw [List.mem_singleton.1 hplan]
    rfl
  have hunseen : IsUnseen toApi := ⟨rfl, rfl, rfl⟩
  rcases build_delivers hbuild hwrappers hunseen with
    ⟨hforms, -⟩ | ⟨plan, hplan, -, key?, selected, seen, hselects, hsees, -, hvisits, hresolved⟩
  · -- The form is neither too large nor failing.
    generalize root (dispatch (hostTable (.ofPlans [apiHost]))) toApi = run at hforms
    cases hforms with
    | tooLarge form large => exact absurd large (by decide +kernel)
    | failed form small failure => cases failure
  · obtain rfl := List.mem_singleton.1 hplan
    have hcovers : ∃ key ∈ filedKeys apiHost.routes, Covers key toApi.target.path.toList :=
      ⟨"/api".toList, by decide +kernel, by decide +kernel⟩
    have hselected : selected = labelled "api" := by
      cases hselects with
      | route cover last =>
        have hmem := mem_of_lastUnder? last
        exact (Prod.mk.inj (List.mem_singleton.1 hmem)).2
      | fallback uncovered =>
        obtain ⟨key, hkey, hcover⟩ := hcovers
        exact absurd hcover (uncovered key hkey)
    obtain ⟨hbody, hform⟩ := hsees.read hsends
    exact ⟨_, seen, hbuild, hvisits _ hselected, hbody, hform, hresolved.2 hcovers⟩

end Gatehouse.Routing
