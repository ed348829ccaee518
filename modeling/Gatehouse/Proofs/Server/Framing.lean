import Gatehouse.Server.Service

namespace Gatehouse.Server

open Http

/-!
# Everything an HTTP listener answers is framed

A response reaches the codec either from the framing stage, or as the page of status 500 that
stands for a call which ended without a response. Both are framed.

* `Framed` — what the framing fields of a response have to say, given the method of its request;
* `framed_frame` — the framing stage frames whatever response it is handed;
* `framed_errorResponse` — error pages are framed without it;
* `answerHttp_framed` — so every answer is framed, however the call ended.
-/

/-- The status of a response that never has a body. -/
def isBodiless (s : Status) : Prop := s.isInformational = true ∨ s = .noContent

/-- The framing fields of a response to a request of some method agree with its status and body. -/
structure Framed (method : Method) (r : Response) : Prop where
  /-- The codec alone decides on the transfer encoding. -/
  transferEncoding : r.headers.getAll .transferEncoding = []
  /-- A response that never has a body declares no length. -/
  bodiless : isBodiless r.status → r.headers.getAll .contentLength = []
  /-- A body of known size is declared with this size, once. -/
  known : ¬ isBodiless r.status → method ≠ .head → ∀ size, r.body.hint.known? = some size →
    r.headers.getAll .contentLength = [decimalValue size]

/-! ### The framing stage -/

/-- The test of the framing stage. -/
theorem isBodiless_iff (s : Status) :
    (s.isInformational || s == .noContent) = true ↔ isBodiless s := by
  simp [isBodiless]

/-- A response that never has a body leaves the stage without a length. -/
theorem getAll_contentLength_frame_of_bodiless (isHead : Bool) {r : Response}
    (h : isBodiless r.status) : (Stage.frame isHead r).headers.getAll .contentLength = [] := by
  simp only [Stage.frame, Stage.framedHeaders]
  rw [if_pos ((isBodiless_iff r.status).2 h)]
  exact Headers.getAll_remove_self _ _

/-- A body of known size leaves the stage with its size for the only length. -/
theorem getAll_contentLength_frame_of_known {r : Response} {size : Nat}
    (h : ¬ isBodiless r.status) (hsize : r.body.hint.known? = some size) :
    (Stage.frame false r).headers.getAll .contentLength = [decimalValue size] := by
  simp only [Stage.frame, Stage.framedHeaders]
  rw [if_neg (fun hb => h ((isBodiless_iff r.status).1 hb)), if_neg Bool.false_ne_true, hsize]
  exact Headers.getAll_insert_self _ _ _

/-- Whatever response it is handed, the stage frames it. -/
theorem framed_frame (method : Method) (r : Response) :
    Framed method (Stage.frame (method == .head) r) := by
  refine ⟨Stage.getAll_transferEncoding_frame _ r, fun h => ?_, fun h hmethod size hsize => ?_⟩
  · exact getAll_contentLength_frame_of_bodiless _ h
  · have hhead : (method == .head) = false := beq_eq_false_iff_ne.2 hmethod
    rw [hhead]
    exact getAll_contentLength_frame_of_known h hsize

/-! ### Error pages -/

/-- An error status is not one of those without a body. -/
theorem not_isBodiless_of_isError {s : Status} (h : s.isError = true) : ¬ isBodiless s := by
  obtain ⟨code⟩ := s
  have hcode : 400 ≤ code := of_decide_eq_true h
  rintro (hinfo | hnone)
  · simp only [Status.isInformational, Bool.and_eq_true, decide_eq_true_eq] at hinfo
    omega
  · have : code = 204 := congrArg Status.code hnone
    omega

/-- An error response is framed, whatever the method, without passing the framing stage. -/
theorem framed_errorResponse (method : Method) {status : Status} (h : status.isError = true) :
    Framed method (Stage.errorResponse status) := by
  have hbody : ¬ isBodiless (Stage.errorResponse status).status := not_isBodiless_of_isError h
  refine ⟨?_, fun hb => absurd hb hbody, fun _ _ size hsize => ?_⟩
  -- The page sets two fields, neither of which is the transfer encoding.
  · have hlength : FieldName.contentLength ≠ FieldName.transferEncoding := by decide
    have htype : FieldName.contentType ≠ FieldName.transferEncoding := by decide
    simp only [Stage.errorResponse, Stage.renderPage]
    rw [Headers.getAll_insert_of_ne _ hlength, Headers.getAll_insert_of_ne _ htype]
    rfl
  · simp only [Stage.errorResponse, Stage.renderPage, Body.hint_full, SizeHint.known?_ofSize,
      Option.some.injEq] at hsize
    rw [Stage.errorResponse, Stage.getAll_contentLength_renderPage, ← hsize]

/-! ### The service -/

/-- A call that is executed and answered leaves the service through the framing stage. -/
theorem answerHttp_of_answered {root : Handler} {connection : Connection} {request : Request}
    {response : Response}
    (h : (root (onConnection connection request)).outcome = .answered response) :
    answerHttp .executed root connection request
      = Stage.frame (request.method == .head) response := by
  simp only [answerHttp, Worker.gated, listenerHandler, Stage.framing, Run.mapResponse, h]
  rfl

/-- A call that is not executed, or ends without a response, is answered with the page of
    status 500. -/
theorem answerHttp_of_lost {fate : Worker.Fate} {root : Handler} {connection : Connection}
    {request : Request}
    (h : fate = .executed →
      ∀ response, (root (onConnection connection request)).outcome ≠ .answered response) :
    answerHttp fate root connection request = Stage.errorResponse .internalServerError := by
  cases fate with
  | cancelled => rfl
  | refused => rfl
  | executed =>
    simp only [answerHttp, Worker.gated, listenerHandler, Stage.framing, Run.mapResponse]
    cases hout : (root (onConnection connection request)).outcome with
    | answered response => exact absurd hout (h rfl response)
    | failed error => simp [hout, responseOf]
    | aborted reason => simp [hout, responseOf, Worker.settle]

/-- Every request to an HTTP listener is answered with a framed response, whatever its root handler
    does and whatever becomes of the call: with the framed response of the root handler if there is
    one, and otherwise with the page of status 500, which is framed as it stands. -/
theorem answerHttp_framed (fate : Worker.Fate) (root : Handler) (connection : Connection)
    (request : Request) :
    Framed request.method (answerHttp fate root connection request) ∧
    (∀ response, fate = .executed →
      (root (onConnection connection request)).outcome = .answered response →
      answerHttp fate root connection request
        = Stage.frame (request.method == .head) response) ∧
    ((fate = .executed →
      ∀ response, (root (onConnection connection request)).outcome ≠ .answered response) →
      answerHttp fate root connection request = Stage.errorResponse .internalServerError) := by
  refine ⟨?_, ?_, answerHttp_of_lost⟩
  -- Either the framing stage was the last to touch the response, or the service made it up.
  · by_cases h : ∃ response, fate = .executed ∧
        (root (onConnection connection request)).outcome = .answered response
    · obtain ⟨response, rfl, hout⟩ := h
      rw [answerHttp_of_answered hout]
      exact framed_frame request.method response
    · have hlost : fate = .executed →
          ∀ response, (root (onConnection connection request)).outcome ≠ .answered response :=
        fun hfate response hout => h ⟨response, hfate, hout⟩
      rw [answerHttp_of_lost hlost]
      exact framed_errorResponse request.method rfl
  · rintro response rfl hout
    exact answerHttp_of_answered hout

end Gatehouse.Server
