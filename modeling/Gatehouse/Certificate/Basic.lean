import Gatehouse.Text.Utf8
import Gatehouse.Time.Calendar

namespace Gatehouse

/-!
# Certificates

What the server keeps of a peer's X.509 certificate.

* `Certificate` — the encoded form with the names, the serial number and the validity read from it;
* `Certificate.validDays` — the length of the validity in whole days.
-/

/-- A decoded certificate. -/
structure Certificate where
  der : Bytes
  subject : String
  issuer : String
  serial : String
  notBefore : Timestamp
  notAfter : Timestamp
  deriving DecidableEq, Repr, Inhabited

namespace Certificate

/-- The type of all certificates. -/
def type : String := "X.509"

/-- Thousandths of a second of a day. -/
def millisPerDay : Int := 86400000

/-- Whole days between the ends of the validity, a part of a day dropped. -/
def validDays (c : Certificate) : Int :=
  (c.notAfter.instant - c.notBefore.instant).tdiv millisPerDay

end Certificate

end Gatehouse
