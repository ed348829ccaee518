import Gatehouse.Config.Listener
import Gatehouse.Stage.ErrorPages
import Gatehouse.Stage.Framing
import Gatehouse.Worker.Tasks

namespace Gatehouse.Server

open Http Config

/-!
# Service

What stands behind a listener: the root handler, framed where the protocol is HTTP, behind the task
gate. The service of an HTTP listener answers every request, also one whose handler is lost.

* `listenerHandler` — the root handler as a listener of a protocol uses it;
* `answerHttp` — one HTTP request of a connection.
-/

/-- The root handler of a listener. Only HTTP responses are framed. -/
def listenerHandler (protocol : Protocol) (root : Handler) : Handler :=
  match protocol with
  | .http | .https => Stage.framing root
  | .ajp => root

/-- The response to a call; an error is answered with the page of status 500. -/
def responseOf : Outcome → Response
  | .answered response => response
  | _ => Stage.errorResponse .internalServerError

/-- A request with the connection it arrived on. -/
def onConnection (connection : Connection) (request : Request) : Request :=
  { request with connection := some connection }

/-- The response to an HTTP request, given what becomes of its call at the task gate. -/
def answerHttp (fate : Worker.Fate) (root : Handler) (connection : Connection)
    (request : Request) : Response :=
  responseOf
    (Worker.gated fate (listenerHandler .http root) (onConnection connection request)).outcome

@[simp] theorem responseOf_answered (r : Response) : responseOf (.answered r) = r := rfl

@[simp] theorem responseOf_failed (e : ServerError) :
    responseOf (.failed e) = Stage.errorResponse .internalServerError := rfl

end Gatehouse.Server
