import Gatehouse.Http.Header

namespace Gatehouse.Http

/-!
# Request methods and protocol versions

* `Method` — a token, compared letter by letter: `head` is not `HEAD`;
* `Version` — the versions of the protocol and how they are written.
-/

/-- A request method: a non-empty token. -/
structure Method where
  name : String
  deriving DecidableEq, Repr, Inhabited

namespace Method

def get : Method := ⟨"GET"⟩
def head : Method := ⟨"HEAD"⟩

/-- Reads a method. -/
def parse? (s : String) : Option Method :=
  if s.isEmpty || !s.toList.all isTokenChar then none else some ⟨s⟩

end Method

/-- Versions of the protocol. -/
inductive Version where
  | http09
  | http10
  | http11
  | http2
  | http3
  deriving DecidableEq, Repr, Inhabited

/-- How a version is written. -/
def Version.text : Version → String
  | .http09 => "HTTP/0.9"
  | .http10 => "HTTP/1.0"
  | .http11 => "HTTP/1.1"
  | .http2 => "HTTP/2.0"
  | .http3 => "HTTP/3.0"

end Gatehouse.Http
