import Gatehouse.Cookie
import Gatehouse.Form
import Gatehouse.Http.Body
import Gatehouse.Http.Method
import Gatehouse.Http.Status
import Gatehouse.Http.Target
import Gatehouse.Session.Basic

namespace Gatehouse.Http

/-!
# Requests and responses

A request carries, beside what the client sent, what the stages in front of a handler learned:
the connection, the cookies, the decoded form and the path it was routed on. A response carries
the cookies queued on it until the cookie stage writes them.

* `Request`, `Request.host` — the host a request is addressed to, in lower case without port;
* `Response`, `Response.addCookie`.
-/

/-- The registered path a request was routed on, and the rest of its path. -/
structure ResolvedPath where
  stem : String
  relative : String
  deriving DecidableEq, Repr, Inhabited

/-- A request as a handler sees it. -/
structure Request where
  method : Method
  target : Target
  version : Version
  headers : Headers
  body : Body
  connection : Option Connection
  cookies : Option CookieJar
  form : Option Form
  resolved : Option ResolvedPath
  deriving DecidableEq, Repr, Inhabited

/-- Removes a port. A bracketed address ends with its bracket; otherwise the port is what follows
    the only colon, if it consists of digits. -/
def stripPort (host : List Char) : List Char :=
  if host.head? = some '[' then
    match Text.splitOnce ']' host with
    | some (inside, _) => inside ++ [']']
    | none => host
  else match Text.splitLast ':' host with
    | some (name, port) => if !name.contains ':' && port.all Char.isDigit then name else host
    | none => host

/-- The host named by a `Host` value or an authority: trimmed, without port, in lower case. -/
def hostName? (text : List Char) : Option String :=
  let host := stripPort (Text.trim text)
  if host.isEmpty then none else some (String.ofList (Text.lower host))

namespace Request

/-- A request as sent by a client: no stage has seen it. -/
def ofClient (method : Method) (target : Target) (version : Version) (headers : Headers)
    (body : Body) : Request :=
  ⟨method, target, version, headers, body, none, none, none, none⟩

/-- The first `Host` value that is readable as text, else the authority of the target. -/
def hostText? (r : Request) : Option (List Char) :=
  match (r.headers.first? .host).bind valueText? with
  | some text => some text
  | none => r.target.authority.map String.toList

/-- The host a request is addressed to. -/
def host (r : Request) : Option String := r.hostText?.bind hostName?

end Request

/-- A response on its way to the client. -/
structure Response where
  status : Status
  version : Version
  headers : Headers
  body : Body
  queued : List Cookie
  deriving DecidableEq, Repr, Inhabited

namespace Response

/-- A response with the given body and nothing else decided. -/
def ofBody (body : Body) : Response := ⟨.ok, .http11, .empty, body, []⟩

/-- An empty response with a status. -/
def ofStatus (status : Status) : Response := { ofBody .empty with status := status }

/-- Queues a cookie behind those already queued. -/
def addCookie (r : Response) (c : Cookie) : Response := { r with queued := r.queued ++ [c] }

@[simp] theorem queued_addCookie (r : Response) (c : Cookie) :
    (r.addCookie c).queued = r.queued ++ [c] := rfl

end Response

end Gatehouse.Http
