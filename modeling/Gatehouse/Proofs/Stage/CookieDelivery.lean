import Gatehouse.Proofs.Stage.Answering

/-!
# Cookies on their way to the client

A cookie may be queued on a response anywhere inside the stages. The outermost stage writes it,
after an error page may have taken the place of the body.

* `written` — the cookies of a queue that can be written, as field values;
* `queued_foldl_addCookie` — cookies are queued in the order in which they are added;
* `getAll_setCookie_pageIfBare`, `queued_pageIfBare` — pages neither take nor add cookies;
* `Delivered`, `delivered_writeCookies` — what the stages make of a response and its queue;
* `build_delivers_cookies` — the root handler of a registry answers with it.
-/

namespace Gatehouse.Http.Headers

/-- Values added under a name come behind those it has. -/
theorem getAll_foldl_append (name : FieldName) (values : List Bytes) (h : Headers) :
    (values.foldl (fun h v => h.append name v) h).getAll name = h.getAll name ++ values := by
  induction values generalizing h with
  | nil => exact (List.append_nil _).symm
  | cons v values ih => rw [List.foldl_cons, ih, getAll_append, if_pos rfl, ← List.append_cons]

/-- Values added under a name leave the other fields as they are. -/
theorem remove_foldl_append (name : FieldName) (values : List Bytes) (h : Headers) :
    (values.foldl (fun h v => h.append name v) h).remove name = h.remove name := by
  induction values generalizing h with
  | nil => rfl
  | cons v values ih =>
    have hone : (h.append name v).remove name = h.remove name := by simp [remove, append]
    rw [List.foldl_cons, ih, hone]

end Gatehouse.Http.Headers

namespace Gatehouse.Stage

open Http

/-! ### Queues -/

/-- The texts of the cookies that may be field values, in the order of the queue. -/
def written (queue : List Cookie) : List Bytes :=
  (queue.map fun c => Utf8.bytes c.text).filter isValue

theorem filterMap_fieldValue? (queue : List Cookie) :
    queue.filterMap Cookie.fieldValue? = written queue := by
  induction queue with
  | nil => rfl
  | cons c queue ih =>
    rw [written, List.map_cons, List.filter_cons, List.filterMap_cons, Cookie.fieldValue?, ih]
    by_cases hvalue : isValue (Utf8.bytes c.text) = true
    · simp only [hvalue, if_true]
      rfl
    · simp only [hvalue]
      rfl

/-- Cookies are queued behind each other. -/
theorem queued_foldl_addCookie (cs : List Cookie) (r : Response) :
    (cs.foldl Response.addCookie r).queued = r.queued ++ cs := by
  induction cs generalizing r with
  | nil => exact (List.append_nil _).symm
  | cons c cs ih => rw [List.foldl_cons, ih, Response.queued_addCookie, ← List.append_cons]

/-! ### Pages -/

/-- A page takes no `Set-Cookie` value and adds none. -/
theorem getAll_setCookie_pageIfBare (r : Response) :
    (pageIfBare r).headers.getAll .setCookie = r.headers.getAll .setCookie := by
  have htype : FieldName.contentType ≠ .setCookie := by decide
  have hlength : FieldName.contentLength ≠ .setCookie := by decide
  rw [pageIfBare]
  split
  · rw [renderPage, Headers.getAll_insert_of_ne _ hlength, Headers.getAll_insert_of_ne _ htype]
  · rfl

/-- A page leaves the queue as it is. -/
theorem queued_pageIfBare (r : Response) : (pageIfBare r).queued = r.queued := by
  rw [pageIfBare]
  split
  · rfl
  · rfl

/-! ### What is delivered -/

/-- What the client gets of a response and of the cookies queued on it. -/
structure Delivered (r out : Response) : Prop where
  /-- Its own values come first, then its cookies in order, but for those that are no values. -/
  setCookie : out.headers.getAll .setCookie = r.headers.getAll .setCookie ++ written r.queued
  /-- The other fields are those of the response, with its page when it is a bare error. -/
  others : out.headers.remove .setCookie = (pageIfBare r).headers.remove .setCookie
  kept : ¬ IsBareError r → Kept r out
  paged : IsBareError r → Paged r out
  /-- Nothing is left in the queue. -/
  queued : out.queued = []

/-- The stages deliver every response. -/
theorem delivered_writeCookies (r : Response) : Delivered r (writeCookies (pageIfBare r)) := by
  have hheaders : (writeCookies (pageIfBare r)).headers
      = (written r.queued).foldl (fun h v => h.append .setCookie v) (pageIfBare r).headers := by
    rw [writeCookies, filterMap_fieldValue?, queued_pageIfBare]
  refine ⟨?_, ?_, kept_of_not_isBareError, paged_of_isBareError, rfl⟩
  · rw [hheaders, Headers.getAll_foldl_append, getAll_setCookie_pageIfBare]
  · rw [hheaders, Headers.remove_foldl_append]

end Gatehouse.Stage

namespace Gatehouse.Routing

open Http

/-- Where the host that a request is for answers it with a response, the root handler answers with
    what the stages deliver of the response: all cookies that can be written, behind the
    `Set-Cookie` values that the response had, whether or not a page took the place of its body. -/
theorem build_delivers_cookies {r : Registry} {handler : Handler} {h : VirtualHost}
    {request passed : Request} {response : Response} (hbuild : build r = .ok handler)
    (hpassed : Stage.handedOn? (Stage.readCookies request) = some passed)
    (hserves : r.Serves request.host h)
    (hanswered : (hostHandler h passed).outcome = .answered response) :
    ∃ out, (handler request).outcome = .answered out ∧ Stage.Delivered response out := by
  have hserved : handler request = Stage.finish (hostHandler h passed) :=
    servedBy_of_serves hbuild hserves passed hpassed
  refine ⟨Stage.writeCookies (Stage.pageIfBare response), ?_, Stage.delivered_writeCookies _⟩
  rw [hserved]
  exact Stage.outcome_finish_of_answered hanswered

/-- A bare error with a `Set-Cookie` value of its own and three cookies, of which the second has a
    line break in it. -/
def crumbs : Response :=
  [Cookie.plain "a" "1", .plain "b" "2\n3", .plain "c" "4"].foldl Response.addCookie
    { Response.ofStatus .notFound with
      headers := Headers.empty.append .setCookie (Utf8.bytes "own=0") }

/-- The default host, which answers everything with the same error. -/
def crumbling : VirtualHost :=
  VirtualHost.catchAll.addWrapper (Interceptor.wrap "crumbs" (.block (.answered crumbs)))

/-- The client gets the page of the error, the value of its own and the two cookies that are
    values. -/
theorem build_delivers_cookies_crumbs :
    ∃ handler out, build ⟨[crumbling]⟩ = .ok handler ∧
      (handler (.ofClient .get .root .http11 .empty .empty)).outcome = .answered out ∧
      out.headers.getAll .setCookie
        = [Utf8.bytes "own=0", Utf8.bytes "a=1", Utf8.bytes "c=4"] ∧
      out.body = .ofText (Stage.errorPage .notFound) ∧ out.queued = [] := by
  let request : Request := .ofClient .get .root .http11 .empty .empty
  have hbuild : build ⟨[crumbling]⟩ = .ok (root (dispatch (hostTable ⟨[crumbling]⟩))) := rfl
  have hhost : request.host = none := rfl
  have hserves : Registry.Serves ⟨[crumbling]⟩ request.host crumbling :=
    .default rfl fun name hname => absurd (hhost.symm.trans hname) nofun
  have hpassed : Stage.handedOn? (Stage.readCookies request) = some (Stage.readCookies request) :=
    rfl
  have hanswered : (hostHandler crumbling (Stage.readCookies request)).outcome = .answered crumbs :=
    rfl
  obtain ⟨out, hout, hdelivered⟩ := build_delivers_cookies hbuild hpassed hserves hanswered
  have hbare : Stage.IsBareError crumbs := ⟨by decide, rfl⟩
  refine ⟨_, out, hbuild, hout, ?_, (hdelivered.paged hbare).body, hdelivered.queued⟩
  rw [hdelivered.setCookie]
  decide

end Gatehouse.Routing
