import Gatehouse.Handler

namespace Gatehouse.Stage

open Http

/-!
# Cookie stage

Parses the cookies of a request before the inner handler sees it, and writes the cookies queued on
a response as `Set-Cookie` fields. A queued cookie whose text is no field value is dropped.

* `readCookies`, `writeCookies` — the two halves;
* `cookies` — the stage.
-/

/-- The request with its cookies parsed. -/
def readCookies (r : Request) : Request := { r with cookies := some (.ofHeaders r.headers) }

/-- The response with its queued cookies written behind the fields it has. -/
def writeCookies (r : Response) : Response :=
  { r with
    headers := (r.queued.filterMap Cookie.fieldValue?).foldl
      (fun h v => h.append .setCookie v) r.headers
    queued := [] }

/-- The cookie stage. -/
def cookies : Wrapper := fun inner request => (inner (readCookies request)).mapResponse writeCookies

@[simp] theorem queued_writeCookies (r : Response) : (writeCookies r).queued = [] := rfl

end Gatehouse.Stage
