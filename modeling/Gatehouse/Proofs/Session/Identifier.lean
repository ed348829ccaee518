import Gatehouse.Proofs.Encoding.Strictness
import Gatehouse.Session.Basic

namespace Gatehouse.Session

/-!
# Identifiers in base64

An identifier that comes in base64 is read before the certificate that comes with it.

* `ofEncoded_of_read`, `ofEncoded_of_unread` — what the identifier makes of the session;
* `ofText_ne_sessionId` — a certificate is never at fault for an identifier;
* `ofEncoded_exact` — the texts that give an identifier, and what becomes of all others.
-/

variable {id : Bytes} {cipherSuite : String} {text : List Char} {certificate : Option (List Char)}

/-- An identifier that is read leaves the certificate to be read. -/
theorem ofEncoded_of_read (h : Base64.decodeText text = .ok id) :
    ofEncoded text cipherSuite certificate = ofText id cipherSuite certificate := by
  unfold ofEncoded
  rw [h]
  rfl

/-- An identifier that cannot be read is the fault, whatever the certificate. -/
theorem ofEncoded_of_unread {fault : Base64.Fault} (h : Base64.decodeText text = .error fault) :
    ofEncoded text cipherSuite certificate = .error (.sessionId fault.message) := by
  unfold ofEncoded
  rw [h]
  rfl

/-- Without a certificate nothing is left to fail. -/
theorem ofText_none : ofText id cipherSuite none = .ok ⟨id, cipherSuite, none⟩ := rfl

/-- A certificate is not at fault for an identifier. -/
theorem ofText_ne_sessionId (reason : String) :
    ofText id cipherSuite certificate ≠ .error (.sessionId reason) := by
  unfold ofText withCertificate
  cases certificate.mapM Certificate.ofText with
  | error fault => exact nofun
  | ok peer => exact nofun

/-- A text without certificate gives a session with some identifier exactly if it is, but for white
    space and the padding at its end, what the identifier is written as. A text that no identifier
    is written as, and no other text, is refused for its identifier, whatever certificate comes with
    it. -/
theorem ofEncoded_exact (text : List Char) (cipherSuite : String) :
    (∀ id, (∃ session, ofEncoded text cipherSuite none = .ok session ∧ session.id = id) ↔
      Base64.bare text = Utf8.ofAscii (Base64.encode id)) ∧
    ∀ certificate,
      (∃ reason, ofEncoded text cipherSuite certificate = .error (.sessionId reason)) ↔
        ∀ id, Base64.bare text ≠ Utf8.ofAscii (Base64.encode id) := by
  simp only [ne_eq, ← Base64.decodeText_eq_ok_iff]
  cases hread : Base64.decodeText text with
  | ok read =>
    constructor
    · intro id
      rw [ofEncoded_of_read hread, ofText_none, Except.ok.injEq]
      constructor
      · rintro ⟨session, hsession, rfl⟩
        rw [← Except.ok.inj hsession]
      · rintro rfl
        exact ⟨_, rfl, rfl⟩
    · intro certificate
      rw [ofEncoded_of_read hread]
      constructor
      · rintro ⟨reason, hreason⟩
        exact absurd hreason (ofText_ne_sessionId reason)
      · intro hnone
        exact absurd rfl (hnone read)
  | error fault =>
    constructor
    · intro id
      rw [ofEncoded_of_unread hread]
      constructor
      · rintro ⟨session, hsession, -⟩
        cases hsession
      · exact nofun
    · intro certificate
      rw [ofEncoded_of_unread hread]
      constructor
      · intro _ id
        exact nofun
      · intro _
        exact ⟨fault.message, rfl⟩

end Gatehouse.Session
