import Gatehouse.Stage.ErrorPages

namespace Gatehouse.Stage

open Http

/-!
# Form stage

Reads the body of a form-encoded request, hands it on unchanged as a body of known size, and adds
its decoded fields. Bodies beyond `maxFormSize` are answered with status 413, bodies that cannot
be read with status 400, and the inner handler is not called. Other requests pass untouched.

* `isFormEncoded` — the first `Content-Type` value names the form media type;
* `forms` — the stage.
-/

/-- The largest body decoded, in bytes. -/
def maxFormSize : Nat := 2 * 1024 * 1024

/-- The media type of forms. -/
def formType : String := "application/x-www-form-urlencoded"

/-- Whether a content type names the form media type, parameters and letter case aside. -/
def namesForm (contentType : List Char) : Bool :=
  Text.lower (Text.trim (contentType.takeWhile (· != ';'))) == formType.toList

/-- Whether the request carries a form. -/
def isFormEncoded (r : Request) : Bool :=
  ((r.headers.first? .contentType).bind valueText?).any namesForm

/-- The request with its body read and decoded. -/
def withForm (r : Request) (bytes : Bytes) : Request :=
  { r with body := .full bytes, form := some (.parse bytes) }

/-- The form stage. -/
def forms : Wrapper := fun inner request =>
  if !isFormEncoded request then inner request
  else match request.body.contentUpTo maxFormSize with
    | .ok bytes => inner (withForm request bytes)
    | .error .tooLarge => .answer (errorResponse .payloadTooLarge)
    | .error (.failed _) => .answer (errorResponse .badRequest)

end Gatehouse.Stage
