import Gatehouse.Error
import Gatehouse.Http.Message

namespace Gatehouse

open Http

/-!
# Handlers and wrappers

A handler answers a request with a response or an error. Its run also tells which user-supplied
handlers and wrappers were entered on the way, in order, so that "is never invoked" and "sees the
same request" are statements about values.

* `Outcome`, `Visit`, `Run` — how a call ends and what it passed through;
* `Handler`, `Wrapper` — a call as a function of the request, and a transformation of calls;
* `Script` — what a user-supplied handler does; `Script.handler`;
* `Interceptor` — the kinds of user-supplied wrappers; `Interceptor.wrap`.
-/

/-- How a call ends. -/
inductive Outcome where
  | answered (response : Response)
  | failed (error : ServerError)
  | aborted (reason : String)
  deriving DecidableEq, Repr, Inhabited

/-- A user-supplied handler or wrapper that was entered; a handler with the request it saw. -/
inductive Visit where
  | handler (label : String) (seen : Request)
  | wrapper (label : String)
  deriving DecidableEq, Repr, Inhabited

/-- A finished call. -/
structure Run where
  visits : List Visit
  outcome : Outcome
  deriving DecidableEq, Repr, Inhabited

/-- A request handler. -/
abbrev Handler := Request → Run

/-- A transformation of handlers. -/
abbrev Wrapper := Handler → Handler

namespace Run

/-- A call that is answered at once. -/
def answer (response : Response) : Run := ⟨[], .answered response⟩

/-- A call that fails at once. -/
def fail (error : ServerError) : Run := ⟨[], .failed error⟩

/-- Puts a visit in front of those of the call. -/
def entering (v : Visit) (r : Run) : Run := { r with visits := v :: r.visits }

/-- Edits the response of an answered call. -/
def mapResponse (f : Response → Response) (r : Run) : Run :=
  match r.outcome with
  | .answered response => { r with outcome := .answered (f response) }
  | _ => r

/-- Answers a failed call after all. -/
def recover (f : ServerError → Response) (r : Run) : Run :=
  match r.outcome with
  | .failed error => { r with outcome := .answered (f error) }
  | _ => r

@[simp] theorem visits_answer (r : Response) : (answer r).visits = [] := rfl

@[simp] theorem outcome_answer (r : Response) : (answer r).outcome = .answered r := rfl

@[simp] theorem visits_entering (v : Visit) (r : Run) :
    (r.entering v).visits = v :: r.visits := rfl

@[simp] theorem outcome_entering (v : Visit) (r : Run) : (r.entering v).outcome = r.outcome := rfl

@[simp] theorem visits_mapResponse (f : Response → Response) (r : Run) :
    (r.mapResponse f).visits = r.visits := by
  unfold mapResponse; split <;> rfl

@[simp] theorem visits_recover (f : ServerError → Response) (r : Run) :
    (r.recover f).visits = r.visits := by
  unfold recover; split <;> rfl

end Run

/-! ### User-supplied handlers -/

/-- What a user-supplied handler does when it is called. -/
structure Script where
  label : String
  outcome : Outcome
  deriving DecidableEq, Repr, Inhabited

/-- Enters the script and ends as it says, whatever the request. -/
def Script.handler (s : Script) : Handler := fun request =>
  ⟨[.handler s.label request], s.outcome⟩

/-- Answers every request with an empty `404 Not Found`. -/
def notFoundHandler : Handler := fun _ => .answer (.ofStatus .notFound)

/-! ### User-supplied wrappers -/

/-- What a wrapper does around its inner handler. One that answers a request itself may look at the
    request, and does not call its inner handler. -/
inductive Interceptor where
  | pass
  | reply (answer : Request → Outcome)
  | editRequest (edit : Request → Request)
  | editResponse (edit : Response → Response)
  | rescue (answer : ServerError → Outcome)

namespace Interceptor

/-- Answers every request the same way. -/
def block (outcome : Outcome) : Interceptor := .reply fun _ => outcome

/-- Makes `value` the only `Host` value of the request. -/
def setHost (value : Bytes) : Interceptor :=
  .editRequest fun r => { r with headers := r.headers.insert .host value }

/-- Adds a field to a successful response. -/
def addField (name : FieldName) (value : Bytes) : Interceptor :=
  .editResponse fun r => { r with headers := r.headers.append name value }

/-- Whether the wrapper calls its inner handler. -/
def callsInner : Interceptor → Bool
  | .reply _ => false
  | _ => true

/-- The wrapper under a label. -/
def wrap (label : String) (i : Interceptor) : Wrapper := fun inner request =>
  Run.entering (.wrapper label) <|
    match i with
    | .pass => inner request
    | .reply answer => ⟨[], answer request⟩
    | .editRequest edit => inner (edit request)
    | .editResponse edit => (inner request).mapResponse edit
    | .rescue answer =>
      let run := inner request
      match run.outcome with
      | .failed error => { run with outcome := answer error }
      | _ => run

end Interceptor

end Gatehouse
