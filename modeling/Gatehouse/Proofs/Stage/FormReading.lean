import Gatehouse.Proofs.Routing.Delivery
import Gatehouse.Proofs.Stage.Answering

/-!
# Forms within their limit

The form stage counts the frames of a form as they arrive. It gives up at the frame that goes beyond
the limit or at the failure behind the frames, whichever it meets first.

* `Body.Exceeds`, `Body.exceeds_iff` — some of the first frames go beyond a limit;
* `unread_tooLarge`, `unread_failed`, `handedOn?_of_whole` — the three ends of reading a form;
* `AnswersWithPage`, `Receives`, `CallsWith` — calls answered with the page of a status, and calls
  of the inner handler with what was read;
* `forms_of_sameContent` — how a body is cut into frames does not matter, and neither does its hint;
* `forms_limits` — the answer to every form, by its frames and its failure.
-/

namespace Gatehouse.Http.Body

/-- Some of the frames that come first hold more than the limit, all together. -/
def Exceeds (limit : Nat) (b : Body) : Prop :=
  ∃ front, front <+: b.frames ∧ limit < front.flatten.length

/-- What the first frames hold only grows, so that a limit is exceeded on the way if it is in the
    end. -/
theorem exceeds_iff {limit : Nat} {b : Body} : b.Exceeds limit ↔ limit < b.bytes.length := by
  constructor
  · rintro ⟨front, ⟨rest, hframes⟩, hlarge⟩
    rw [bytes, ← hframes, List.flatten_append, List.length_append]
    omega
  · intro hlarge
    exact ⟨b.frames, List.prefix_rfl, hlarge⟩

/-- The bodies hold the same bytes, and there is a failure behind those of both or of neither. -/
structure SameContent (b other : Body) : Prop where
  bytes : b.bytes = other.bytes
  failure : b.failure = none ↔ other.failure = none

theorem SameContent.exceeds_iff {limit : Nat} {b other : Body} (h : b.SameContent other) :
    b.Exceeds limit ↔ other.Exceeds limit := by
  rw [Body.exceeds_iff, Body.exceeds_iff, h.bytes]

end Gatehouse.Http.Body

namespace Gatehouse.Stage

open Http Routing

variable {sent : Request}

/-! ### The ends of reading -/

theorem unread_tooLarge (hform : isFormEncoded sent = true)
    (hlarge : sent.body.Exceeds maxFormSize) : Unread sent .tooLarge :=
  ⟨hform, contentUpTo_of_large (Body.exceeds_iff.1 hlarge)⟩

/-- A body that stays within the limit is read to its end. -/
theorem contentUpTo_of_not_exceeds {limit : Nat} {b : Body} (h : ¬ b.Exceeds limit) :
    b.contentUpTo limit = b.content.mapError .failed := by
  rw [Body.exceeds_iff, Nat.not_lt] at h
  exact contentUpTo_of_small h

theorem unread_failed (hform : isFormEncoded sent = true)
    (hsmall : ¬ sent.body.Exceeds maxFormSize) {reason : String}
    (hfailure : sent.body.failure = some reason) : Unread sent (.failed reason) := by
  refine ⟨hform, ?_⟩
  rw [contentUpTo_of_not_exceeds hsmall, (content_eq_error_iff _ _).2 hfailure]
  rfl

theorem handedOn?_of_whole (hform : isFormEncoded sent = true)
    (hsmall : ¬ sent.body.Exceeds maxFormSize) (hfailure : sent.body.failure = none) :
    handedOn? sent = some (withForm sent sent.body.bytes) := by
  have hread : sent.body.contentUpTo maxFormSize = .ok sent.body.bytes := by
    rw [contentUpTo_of_not_exceeds hsmall, (content_eq_ok_iff _ _).2 ⟨hfailure, rfl⟩]
    rfl
  rw [handedOn?, hform, hread]
  rfl

/-! ### What comes of a form -/

/-- The call is answered with the page of a status, and its inner handler is not called. -/
def AnswersWithPage (call : Handler → Run) (status : Status) : Prop :=
  ∃ page, Paged (.ofStatus status) page ∧ ∀ inner, call inner = .answer page

/-- A response that is made for the page of a status has nothing else to it. -/
theorem paged_errorResponse (status : Status) :
    Paged (.ofStatus status) (errorResponse status) := by
  have hothers : otherFields (errorResponse status).headers
      = otherFields (Response.ofStatus status).headers := otherFields_renderPage _
  refine ⟨rfl, rfl, rfl, ?_, ?_, ?_, rfl⟩
  · exact getAll_contentType_renderPage _
  · exact getAll_contentLength_renderPage _
  · rw [hothers]
    rfl

/-- A form that cannot be read is answered with the page for its fault. -/
theorem answersWithPage_of_unread {fault : Body.ReadFault} (h : Unread sent fault) :
    AnswersWithPage (forms · sent) (refusal fault) :=
  ⟨errorResponse (refusal fault), paged_errorResponse _, fun inner => forms_of_unread inner h⟩

/-- What a form is handed on as: the same request, with a body that holds the bytes that were sent
    and promises as many, and with the fields that these bytes spell out. -/
structure Receives (sent seen : Request) : Prop where
  request : { seen with body := sent.body, form := sent.form } = sent
  bytes : seen.body.bytes = sent.body.bytes
  size : seen.body.hint.known? = some sent.body.bytes.length
  whole : seen.body.failure = none
  form : seen.form = some (.parse sent.body.bytes)

/-- The call is that of its inner handler with a request, and a handler that records its calls is
    called this one time. -/
def CallsWith (call : Handler → Run) (seen : Request) : Prop :=
  (∀ inner, call inner = inner seen) ∧
    ∀ s : Script, (call s.handler).visits = [.handler s.label seen]

theorem receives_withForm (sent : Request) : Receives sent (withForm sent sent.body.bytes) :=
  ⟨rfl, Body.bytes_full _, SizeHint.known?_ofSize _, rfl, rfl⟩

theorem callsWith_of_handedOn? {passed : Request} (h : handedOn? sent = some passed) :
    CallsWith (forms · sent) passed := by
  have hcall : ∀ inner, forms inner sent = inner passed := fun inner => forms_of_handedOn? inner h
  refine ⟨hcall, fun s => ?_⟩
  show (forms s.handler sent).visits = _
  rw [hcall]
  rfl

/-- Of the body of a form, the stage notices what it holds and whether it fails. -/
theorem forms_of_sameContent (inner : Handler) (hform : isFormEncoded sent = true) {body : Body}
    (h : body.SameContent sent.body) :
    forms inner { sent with body := body } = forms inner sent := by
  have hform' : isFormEncoded { sent with body := body } = true := hform
  by_cases hlarge : sent.body.Exceeds maxFormSize
  · have hlarge' : body.Exceeds maxFormSize := h.exceeds_iff.2 hlarge
    rw [forms_of_unread inner (unread_tooLarge hform hlarge),
      forms_of_unread inner (unread_tooLarge hform' hlarge')]
  · have hsmall' : ¬ body.Exceeds maxFormSize := mt h.exceeds_iff.1 hlarge
    cases hfailure : sent.body.failure with
    | none =>
      have hwhole := handedOn?_of_whole hform hlarge hfailure
      have hwhole' := handedOn?_of_whole hform' hsmall' (h.failure.2 hfailure)
      rw [forms_of_handedOn? inner hwhole, forms_of_handedOn? inner hwhole']
      simp only [withForm, h.bytes]
    | some reason =>
      have hfails : body.failure ≠ none := by
        rw [ne_eq, h.failure, hfailure]
        exact Option.some_ne_none reason
      obtain ⟨reason', hfailure'⟩ := Option.ne_none_iff_exists'.1 hfails
      -- The reasons may differ, but both are answered with the same page.
      rw [forms_of_unread inner (unread_failed hform hlarge hfailure),
        forms_of_unread inner (unread_failed hform' hsmall' hfailure')]
      rfl

/-- A form with some first frames beyond the limit is answered with status 413, and any other one
    that fails with status 400, each with its page and without a call. What is left is handed on,
    read. All this depends on nothing but the bytes of the form and whether it fails behind them. -/
theorem forms_limits (hsends : SendsForm sent.headers) :
    (sent.body.Exceeds maxFormSize → AnswersWithPage (forms · sent) .payloadTooLarge) ∧
    (¬ sent.body.Exceeds maxFormSize → sent.body.failure ≠ none →
      AnswersWithPage (forms · sent) .badRequest) ∧
    (¬ sent.body.Exceeds maxFormSize → sent.body.failure = none →
      ∃ seen, Receives sent seen ∧ CallsWith (forms · sent) seen) ∧
    ∀ body : Body, body.SameContent sent.body → ∀ inner,
      forms inner { sent with body := body } = forms inner sent := by
  have hform : isFormEncoded sent = true := (isFormEncoded_iff sent).2 hsends
  refine ⟨?_, ?_, ?_, fun body hbody inner => forms_of_sameContent inner hform hbody⟩
  · intro hlarge
    exact answersWithPage_of_unread (unread_tooLarge hform hlarge)
  · intro hsmall hfails
    obtain ⟨reason, hfailure⟩ := Option.ne_none_iff_exists'.1 hfails
    exact answersWithPage_of_unread (unread_failed hform hsmall hfailure)
  · intro hsmall hfailure
    have hpassed := handedOn?_of_whole hform hsmall hfailure
    exact ⟨_, receives_withForm sent, callsWith_of_handedOn? hpassed⟩

/-- A form with a body. -/
def sending (body : Body) : Request :=
  .ofClient ⟨"POST"⟩ Target.root .http11
    (Headers.empty.append .contentType (Utf8.bytes formType)) body

/-- A body that holds as much as a form may, in a frame and an empty one behind it, and then more.
    -/
def filled (more : List Bytes) (failure : Option String) : Body :=
  ⟨List.replicate maxFormSize 0x61 :: [] :: more, .unknown, failure⟩

theorem length_bytes_filled (more : List Bytes) (failure : Option String) :
    (filled more failure).bytes.length = maxFormSize + more.flatten.length := by
  simp [filled, Body.bytes]

/-- At the limit, one byte more makes the difference, and it does so in front of a failure. -/
theorem forms_limits_filled :
    AnswersWithPage (forms · (sending (filled [[0x61]] (some "reset")))) .payloadTooLarge ∧
      AnswersWithPage (forms · (sending (filled [] (some "reset")))) .badRequest ∧
      ∃ seen, Receives (sending (filled [] none)) seen ∧
        CallsWith (forms · (sending (filled [] none))) seen := by
  have hsends : ∀ body, SendsForm (sending body).headers := fun body =>
    (isFormEncoded_iff (sending body)).1 rfl
  have hover : (filled [[0x61]] (some "reset")).Exceeds maxFormSize := by
    rw [Body.exceeds_iff, length_bytes_filled]
    simp
  have hfull : ∀ failure, ¬ (filled [] failure).Exceeds maxFormSize := by
    intro failure
    rw [Body.exceeds_iff, length_bytes_filled]
    simp
  exact ⟨(forms_limits (hsends _)).1 hover,
    (forms_limits (hsends _)).2.1 (hfull _) (Option.some_ne_none _),
    (forms_limits (hsends _)).2.2.1 (hfull _) rfl⟩

end Gatehouse.Stage
