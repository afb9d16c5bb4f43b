import EInvoice.Pki.Certificate
import EInvoice.Failure

/-!
# Certificate validity

Why a certificate may not be used (`CertificateError`), and the first check every validator
makes: the certificate is valid at a given instant, its `notBefore` and `notAfter` bounds
included (`checkValidity`).
-/

namespace EInvoice.Security

open EInvoice.Pki EInvoice.Clock

/-- Why a certificate may not be used. -/
inductive CertificateError where
  /-- no certificate was given -/
  | missing
  /-- the validity period has not begun -/
  | notYetValid (start : Time)
  /-- the validity period is over -/
  | expired (finish : Time)
  /-- the issuer revoked it -/
  | revoked (detail : String)
  /-- a trust service refused it, for the reason given (empty when none) -/
  | untrusted (reason : String)
  /-- a failure without a condition of its own -/
  | plain (message : String)
  /-- some other check failed -/
  | invalid (detail : String)
  /-- a failure reported with its own message and conditions -/
  | reported (message : String) (kinds : List Kind)
  deriving Repr

instance : Reportable CertificateError where
  message
    | .missing => "certificate validation failed: nil certificate"
    | .notYetValid t => "certificate is not yet valid: valid from " ++ t.showStamp
    | .expired t => "certificate has expired: expired at " ++ t.showStamp
    | .revoked d => "certificate has been revoked: " ++ d
    | .untrusted r => if r.isEmpty then "certificate is not trusted" else "certificate is not trusted: " ++ r
    | .plain m => m
    | .invalid d => "certificate validation failed: " ++ d
    | .reported m _ => m
  kinds
    | .missing | .invalid _ => [.invalidCertificate]
    | .notYetValid _ => [.certificateNotYetValid]
    | .expired _ => [.certificateExpired]
    | .revoked _ => [.certificateRevoked]
    | .untrusted _ => [.certificateUntrusted]
    | .plain _ => []
    | .reported _ ks => ks

/-- What a certificate is checked for. -/
inductive Purpose where
  | signing
  | tlsClient
  deriving DecidableEq, Repr

/-- The name of a purpose, as validators are given it. -/
def Purpose.text : Purpose → String
  | .signing => "signing"
  | .tlsClient => "tls-client"

/-- Whether instant `a` comes strictly before instant `b`. -/
def Time.lt (a b : Time) : Bool := a.seconds < b.seconds ∨ (a.seconds = b.seconds ∧ a.nanos < b.nanos)

/-- A certificate is valid at `now` when `now` is neither before `notBefore` nor after
`notAfter`. -/
def checkValidity (c : Certificate) (now : Time) : Except CertificateError Unit :=
  if Time.lt now c.notBefore then .error (.notYetValid c.notBefore)
  else if Time.lt c.notAfter now then .error (.expired c.notAfter)
  else .ok ()

theorem checkValidity_ok (c : Certificate) (now : Time)
    (h1 : Time.lt now c.notBefore = false) (h2 : Time.lt c.notAfter now = false) :
    checkValidity c now = .ok () := by
  simp [checkValidity, h1, h2]

end EInvoice.Security
