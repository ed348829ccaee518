import Gatehouse.Handler

namespace Gatehouse.Stage

open Http

/-!
# Error page stage

A response of status 400 or above whose body is known to be empty gets a small HTML page; an error
of the inner handler is answered with the page of status 500.

* `errorPage` — the page; `errorResponse` — a response that carries it;
* `errorPages` — the stage.
-/

/-- A small HTML page describing a status. -/
def errorPage (status : Status) : String :=
  "<html><head><title>Error</title></head><body>" ++ toString status.code ++ " - "
    ++ status.reason?.getD "Unknown" ++ "</body></html>"

/-- The media type of the page. -/
def pageType : String := "text/html; charset=UTF-8"

/-- Puts the page of the response's status in the place of its body. -/
def renderPage (r : Response) : Response :=
  let page := Utf8.bytes (errorPage r.status)
  { r with
    headers := (r.headers.insert .contentType (Utf8.bytes pageType)).insert .contentLength
      (decimalValue page.length)
    body := .full page }

/-- An otherwise empty response that carries the page of a status. -/
def errorResponse (status : Status) : Response := renderPage (.ofStatus status)

/-- Renders the page where it is wanted. -/
def pageIfBare (r : Response) : Response :=
  if r.status.isError && r.body.isKnownEmpty then renderPage r else r

/-- The error page stage. -/
def errorPages : Wrapper := fun inner request =>
  ((inner request).mapResponse pageIfBare).recover fun _ => errorResponse .internalServerError

/-- A page replaces every length by its own. -/
theorem getAll_contentLength_renderPage (r : Response) :
    (renderPage r).headers.getAll .contentLength
      = [decimalValue (Utf8.bytes (errorPage r.status)).length] :=
  Headers.getAll_insert_self _ _ _

/-- A page replaces every media type by that of pages. -/
theorem getAll_contentType_renderPage (r : Response) :
    (renderPage r).headers.getAll .contentType = [Utf8.bytes pageType] := by
  have hlength : FieldName.contentLength ≠ FieldName.contentType := by decide
  rw [renderPage, Headers.getAll_insert_of_ne _ hlength, Headers.getAll_insert_self]

end Gatehouse.Stage
