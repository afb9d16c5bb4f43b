import EInvoice.Security.Revocation
import EInvoice.Security.Trust

/-!
# Certificate validators

A validator decides whether a certificate may be used for a purpose, given the chain of its
issuers, issuer first:

* `validity` checks the validity period at a fixed instant;
* `chain` checks the validity period, then verifies the certificate up to trust anchors with the
  chain as intermediates (`ChainVerifier`: x509 path building is outside this library, so it is a
  parameter);
* `revocation` runs a base validator, then, when it has a checker and the chain is not empty,
  asks whether the first certificate of the chain revoked it;
* `trust` asks a trust service.

Every validator refuses a missing certificate.
-/

namespace EInvoice.Security

open EInvoice.Pki EInvoice.Clock

/-- How a certificate is verified up to trust anchors, with intermediates, for a purpose at an
instant: success, or why not. -/
abbrev ChainVerifier := Certificate → List Certificate → Purpose → Time → Except String Unit

/-- A certificate validator. -/
inductive Validator where
  /-- the validity period only, at a fixed instant -/
  | validity (now : Time)
  /-- the validity period, then a chain up to trust anchors -/
  | chain (now : Time) (verify : ChainVerifier)
  /-- a base validator, then revocation by the issuer -/
  | revocation (base : Validator) (checker : Option RevocationPolicy)
  /-- the decision of a trust service -/
  | trust (service : TrustService)

/-- Check a certificate, if there is one, with its chain for a purpose. -/
def Validator.check : Validator → Option Certificate → List Certificate → Purpose →
    Except CertificateError Unit
  | .trust t, c, issuers, p => t.check c issuers p.text
  | .revocation base checker, c, issuers, p => do
    base.check c issuers p
    match c, checker, issuers with
    | some c, some pol, issuer :: _ => checkRevocation pol c issuer
    | _, _, _ => pure ()
  | _, none, _, _ => .error .missing
  | .validity now, some c, _, _ => checkValidity c now
  | .chain now verify, some c, issuers, p => do
    checkValidity c now
    (verify c issuers p now).mapError .untrusted

theorem check_missing (v : Validator) (chain : List Certificate) (p : Purpose) :
    v.check none chain p = .error .missing := by
  induction v with
  | revocation base checker ih => simp [Validator.check, ih, bind, Except.bind]
  | _ => rfl

/-- A chain validator accepts a certificate exactly when it is within its validity period and
the chain verifies. -/
theorem chain_check_eq_ok (now : Time) (verify : ChainVerifier) (c : Certificate)
    (chain : List Certificate) (p : Purpose) :
    (Validator.chain now verify).check (some c) chain p = .ok () ↔
      checkValidity c now = .ok () ∧ verify c chain p now = .ok () := by
  have hok : ∀ u, (Except.ok u : Except String Unit).mapError CertificateError.untrusted = .ok u :=
    fun _ => rfl
  have herr : ∀ e, (Except.error e : Except String Unit).mapError CertificateError.untrusted =
      .error (.untrusted e) := fun _ => rfl
  simp only [Validator.check, bind, Except.bind]
  cases checkValidity c now <;> cases verify c chain p now <;> simp [hok, herr]

end EInvoice.Security
