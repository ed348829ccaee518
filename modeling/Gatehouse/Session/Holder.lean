import Gatehouse.Session.Basic

namespace Gatehouse

/-!
# The current session of a connection

A connection replaces its session when the peer negotiates again. Whoever keeps the session it had
before still sees that one.

* `SessionHolder` — the current session and how often it was replaced;
* `SessionHolder.renegotiate` — replaces it and gives the one it replaced.
-/

/-- The current session of a connection. `turn` tells its instance from earlier ones. -/
structure SessionHolder where
  current : Session
  turn : Nat
  deriving DecidableEq, Repr, Inhabited

namespace SessionHolder

/-- A connection with its first session. -/
def ofSession (s : Session) : SessionHolder := ⟨s, 0⟩

/-- Replaces the session. -/
def renegotiate (h : SessionHolder) (s : Session) : Session × SessionHolder :=
  (h.current, ⟨s, h.turn + 1⟩)

@[simp] theorem renegotiate_fst (h : SessionHolder) (s : Session) :
    (h.renegotiate s).1 = h.current := rfl

@[simp] theorem current_renegotiate (h : SessionHolder) (s : Session) :
    (h.renegotiate s).2.current = s := rfl

/-- The diagnostic rendering. -/
def debug (h : SessionHolder) : String :=
  Text.record "SslSessionHolder" [("current", h.current.debug)]

end SessionHolder

end Gatehouse
