import Gatehouse.Routing.Dispatch

namespace Gatehouse.Stage

open Http

/-!
# What the common stages pass on

The stages around the choice of host either answer a request themselves or hand it on to their inner
handler exactly once, and then make a response of its run.

* `handedOn?` — the request that the form stage hands on, if it does not answer itself;
* `Unread`, `refusal` — a form that cannot be read, and the status it is answered with;
* `finish`, `outcome_finish_of_answered` — what error pages and cookies make of the run of the inner
  handler;
* `root_of_handedOn?`, `root_of_unread` — the root handler in these terms;
* `host_of_handedOn?` — the host a request is addressed to stays the same on the way.
-/

/-- The request that the form stage hands on, `none` where it answers itself. -/
def handedOn? (r : Request) : Option Request :=
  if !isFormEncoded r then some r
  else match r.body.contentUpTo maxFormSize with
    | .ok bytes => some (withForm r bytes)
    | .error _ => none

/-- A form whose body cannot be read within the limit. -/
structure Unread (r : Request) (fault : Body.ReadFault) : Prop where
  form : isFormEncoded r = true
  read : r.body.contentUpTo maxFormSize = .error fault

/-- The status of the page that a form is answered with when it cannot be read. -/
def refusal : Body.ReadFault → Status
  | .tooLarge => .payloadTooLarge
  | .failed _ => .badRequest

/-- A request, with its cookies read, is handed on unless it is a form that cannot be read. -/
theorem handedOn_or_unread (request : Request) :
    (∃ passed, handedOn? (readCookies request) = some passed) ∨ ∃ fault, Unread request fault := by
  rw [handedOn?]
  cases hform : isFormEncoded (readCookies request) with
  | false => exact .inl ⟨readCookies request, rfl⟩
  | true =>
    cases hread : (readCookies request).body.contentUpTo maxFormSize with
    | ok bytes => exact .inl ⟨withForm (readCookies request) bytes, rfl⟩
    | error fault => exact .inr ⟨fault, hform, hread⟩

/-- A request is handed on as it is or with its form read. -/
theorem eq_or_withForm_of_handedOn? {r passed : Request} (h : handedOn? r = some passed) :
    passed = r ∨ ∃ bytes, passed = withForm r bytes := by
  rw [handedOn?] at h
  split at h
  · exact .inl (Option.some.inj h).symm
  · split at h
    · rename_i bytes _
      exact .inr ⟨bytes, (Option.some.inj h).symm⟩
    · simp at h

/-- The form stage calls its inner handler with the request it hands on. -/
theorem forms_of_handedOn? (inner : Handler) {r passed : Request}
    (h : handedOn? r = some passed) : forms inner r = inner passed := by
  rw [handedOn?] at h
  simp only [forms]
  split at h
  · rename_i hform
    rw [if_pos hform, Option.some.inj h]
  · rename_i hform
    rw [if_neg hform]
    split at h
    · rename_i hread
      simp only [hread, Option.some.inj h]
    · simp at h

/-- The form stage answers itself where it cannot read a form. -/
theorem forms_of_unread (inner : Handler) {r : Request} {fault : Body.ReadFault}
    (h : Unread r fault) : forms inner r = .answer (errorResponse (refusal fault)) := by
  simp only [forms, h.form, h.read]
  cases fault <;> rfl

/-- What the stages behind the inner handler make of its run: error pages, then cookies. -/
def finish (run : Run) : Run :=
  ((run.mapResponse pageIfBare).recover fun _ => errorResponse .internalServerError).mapResponse
    writeCookies

/-- The stages enter no handler and no wrapper of their own. -/
@[simp] theorem visits_finish (run : Run) : (finish run).visits = run.visits := by
  simp [finish]

/-- An answer of the inner handler becomes a page where it is bare, and has its cookies written. -/
theorem outcome_finish_of_answered {run : Run} {r : Response} (h : run.outcome = .answered r) :
    (finish run).outcome = .answered (writeCookies (pageIfBare r)) := by
  simp only [finish, Run.mapResponse, Run.recover, h]

/-- The root handler finishes the run of its inner handler on the request handed on. -/
theorem root_of_handedOn? (inner : Handler) {request passed : Request}
    (h : handedOn? (readCookies request) = some passed) :
    Routing.root inner request = finish (inner passed) := by
  have hforms := forms_of_handedOn? (errorPages inner) h
  simp only [Routing.root, cookies, hforms, errorPages, finish]

/-- The root handler answers itself where a form cannot be read. -/
theorem root_of_unread (inner : Handler) {request : Request} {fault : Body.ReadFault}
    (h : Unread request fault) :
    Routing.root inner request = .answer (errorResponse (refusal fault)) := by
  have hread : Unread (readCookies request) fault := ⟨h.form, h.read⟩
  simp only [Routing.root, cookies, forms_of_unread (errorPages inner) hread]
  rfl

/-- Reading cookies and forms does not change the host a request is addressed to. -/
theorem host_of_handedOn? {request passed : Request}
    (h : handedOn? (readCookies request) = some passed) : passed.host = request.host := by
  rcases eq_or_withForm_of_handedOn? h with rfl | ⟨bytes, rfl⟩
  · rfl
  · rfl

end Gatehouse.Stage
