import EInvoice.Security.Trust
import Mathlib

/-!
# What a trust service is asked, and what its answer means

The decision point is left arbitrary: `recording answer` answers each evaluation request as
`answer` does and keeps the requests it was sent, in order, so a run shows what was sent.

A validation sends nothing when there is no certificate, or when the certificate names no one
(`subjectName` is empty); it then rejects the certificate as invalid. Otherwise it sends exactly
one request (`evaluationRequest_spec` says what it holds) and the answer decides
(`verdict_spec`): trust accepts, a refusal rejects the certificate as untrusted, and a failed
evaluation rejects it as invalid.

The name is the common name, else the subject serial number, else the first email address when
there is one, even an empty one, else the first URI: a certificate whose first email address is
empty names no one, whatever URI follows (`unnamedEmail_not_asked`). The context carries the
taxpayer number only when something follows `RUC` in the serial number.

Main statement: `trust_request_verdict`.
-/

namespace EInvoice.Security

open EInvoice.Pki EInvoice.Crypto

/-- A decision point that answers each request as `answer` does and keeps the requests it is
sent, in order. -/
def recording (answer : EvaluationRequest → Except String Decision) :
    DecisionPoint (StateM (List EvaluationRequest)) where
  evaluate r := do
    modify (· ++ [r])
    pure (answer r)

/-! ## The request -/

/-- The taxpayer number is what follows `RUC` in the subject serial number, when something
does. -/
theorem taxpayerId_eq_iff (c : Certificate) (x : String) :
    taxpayerId c = x ∧ x ≠ "" ↔ c.subject.lastOf 5 = "RUC" ++ x ∧ x ≠ "" := by
  have hruc : ∀ s : String, s = "RUC" ++ x ↔ s.toList = 'R' :: 'U' :: 'C' :: x.toList := by
    intro s
    rw [← String.toList_inj]
    simp
  rw [hruc, taxpayerId]
  -- only a serial number of the form `RUC…` yields a number
  split
  · rename_i rest h
    rw [h]
    constructor
    · rintro ⟨rfl, hx⟩
      exact ⟨by simp, hx⟩
    · rintro ⟨heq, hx⟩
      simp only [List.cons.injEq, true_and] at heq
      exact ⟨by rw [heq, String.ofList_toList], hx⟩
  · rename_i h
    constructor
    · rintro ⟨rfl, hx⟩
      exact absurd rfl hx
    · rintro ⟨heq, -⟩
      exact absurd heq (h _)

/-- The request about a certificate asks about the key of the name the certificate gives,
carries the certificate and then its chain, in order, each DER encoding in base64, names the
purpose as action or else the default action, when either is given, and carries the taxpayer
number exactly when something follows `RUC` in the subject serial number. -/
theorem evaluationRequest_spec (a : String) (c : Certificate) (chain : List Certificate)
    (purpose : String) :
    (evaluationRequest a c chain purpose).subject = ⟨"key", subjectName c⟩ ∧
    (evaluationRequest a c chain purpose).resource =
      ⟨"x5c", subjectName c, (c :: chain).map fun x => Base64.encode x.raw⟩ ∧
    (evaluationRequest a c chain purpose).action =
      (if purpose ≠ "" then some purpose else if a ≠ "" then some a else none) ∧
    ∀ x, (evaluationRequest a c chain purpose).ruc = some x ↔
      c.subject.lastOf 5 = "RUC" ++ x ∧ x ≠ "" := by
  refine ⟨rfl, rfl, ?_, fun x => ?_⟩
  · by_cases hp : purpose = "" <;> by_cases ha : a = "" <;>
      simp [evaluationRequest, hp, ha, String.isEmpty_iff]
  · rw [← taxpayerId_eq_iff]
    by_cases ht : taxpayerId c = ""
    · simp only [evaluationRequest, ht, String.isEmpty_iff, if_true, reduceCtorEq, false_iff]
      rintro ⟨rfl, hx⟩
      exact hx rfl
    · simp only [evaluationRequest, String.isEmpty_iff, ht, if_false, Option.some.injEq]
      constructor
      · rintro rfl
        exact ⟨rfl, ht⟩
      · rintro ⟨rfl, -⟩
        rfl

/-! ## The verdict -/

/-- Trust accepts, a refusal rejects as untrusted, and a failed evaluation rejects as invalid. -/
theorem verdict_spec (a : Except String Decision) :
    (verdict a = .ok () ↔ ∃ d, a = .ok d ∧ d.decision = true) ∧
    ((∃ e, verdict a = .error e ∧ Kind.certificateUntrusted ∈ Reportable.kinds e) ↔
      ∃ d, a = .ok d ∧ d.decision = false) ∧
    ((∃ e, verdict a = .error e ∧ Kind.invalidCertificate ∈ Reportable.kinds e) ↔
      ∃ m, a = .error m) := by
  rcases a with m | ⟨decision, reason⟩
  · simp [verdict, Reportable.kinds]
  · cases decision <;> simp [verdict, Reportable.kinds]

/-! ## A validation -/

section Validation

variable (t : TrustService) (answer : EvaluationRequest → Except String Decision)
  (chain : List Certificate) (purpose : String)

theorem validate_none :
    (t.validate (recording answer) none chain purpose).run [] = (.error .missing, []) := rfl

theorem validate_unnamed {c : Certificate} (h : subjectName c = "") :
    (t.validate (recording answer) (some c) chain purpose).run [] =
      (.error (.invalid "certificate has no identifiable subject name"), []) := by
  simp [TrustService.validate, h]
  rfl

theorem validate_named {c : Certificate} (h : subjectName c ≠ "") :
    (t.validate (recording answer) (some c) chain purpose).run [] =
      (verdict (answer (evaluationRequest t.defaultAction c chain purpose)),
        [evaluationRequest t.defaultAction c chain purpose]) := by
  simp [TrustService.validate, String.isEmpty_iff, h]
  rfl

end Validation

/-- Validating a certificate with a trust service, whatever the service answers. Without a
certificate, or with one that names no one, nothing is sent and the certificate is invalid.
Otherwise exactly one request is sent: about the key of the certificate's name, with the
certificate and its chain in order, the purpose or else the default action, and the taxpayer
number when the serial number has one after `RUC`; the certificate is accepted when the answer
is trust, untrusted when it is a refusal, and invalid when the evaluation fails. -/
theorem trust_request_verdict (t : TrustService) (answer : EvaluationRequest → Except String Decision)
    (chain : List Certificate) (purpose : String) :
    (t.validate (recording answer) none chain purpose).run [] = (.error .missing, []) ∧
    (∀ c, subjectName c = "" → (t.validate (recording answer) (some c) chain purpose).run [] =
      (.error (.invalid "certificate has no identifiable subject name"), [])) ∧
    (∀ c, subjectName c ≠ "" → ∃ r,
      (t.validate (recording answer) (some c) chain purpose).run [] = (verdict (answer r), [r]) ∧
      r.subject = ⟨"key", subjectName c⟩ ∧
      r.resource = ⟨"x5c", subjectName c, (c :: chain).map fun x => Base64.encode x.raw⟩ ∧
      r.action = (if purpose ≠ "" then some purpose
        else if t.defaultAction ≠ "" then some t.defaultAction else none) ∧
      ∀ x, r.ruc = some x ↔ c.subject.lastOf 5 = "RUC" ++ x ∧ x ≠ "") ∧
    ∀ a : Except String Decision,
      (verdict a = .ok () ↔ ∃ d, a = .ok d ∧ d.decision = true) ∧
      ((∃ e, verdict a = .error e ∧ Kind.certificateUntrusted ∈ Reportable.kinds e) ↔
        ∃ d, a = .ok d ∧ d.decision = false) ∧
      ((∃ e, verdict a = .error e ∧ Kind.invalidCertificate ∈ Reportable.kinds e) ↔
        ∃ m, a = .error m) :=
  ⟨validate_none t answer chain purpose, fun _ h => validate_unnamed t answer chain purpose h,
    fun c h => ⟨_, validate_named t answer chain purpose h,
      evaluationRequest_spec t.defaultAction c chain purpose⟩, verdict_spec⟩

/-! ## A certificate whose first email address is empty -/

/-- A certificate without subject name whose alternative names are an empty email address and
then a URI. -/
def unnamedEmailCertificate : Certificate :=
  { raw := [], rawTbs := [], version := 3, serial := 1, signatureAlgorithm := ⟨[], []⟩,
    rawIssuer := [], issuer := ⟨[]⟩, notBefore := Clock.Time.zero, notAfter := Clock.Time.zero,
    rawSubject := [], subject := ⟨[]⟩, rawSpki := [], keyAlgorithm := ⟨[], []⟩, keyBits := [],
    publicKey := none, emailAddresses := [""], uris := ["http://uri.example"], signature := [] }

/-- The first non-empty of the common name, the serial number, the first email address and the
first URI of that certificate is the URI, yet a trust service that trusts everything is sent
nothing and the certificate is rejected as naming no one: the empty email address is taken as
the name. -/
theorem unnamedEmail_not_asked :
    [unnamedEmailCertificate.subject.commonName, unnamedEmailCertificate.subject.lastOf 5,
        unnamedEmailCertificate.emailAddresses.headD "", unnamedEmailCertificate.uris.headD ""].find?
        (· ≠ "") = some "http://uri.example" ∧
    ((⟨"http://pdp.example", "signing"⟩ : TrustService).validate (recording fun _ => .ok ⟨true, ""⟩)
        (some unnamedEmailCertificate) [] "signing").run [] =
      (.error (.invalid "certificate has no identifiable subject name"), []) :=
  ⟨by decide, validate_unnamed _ _ _ _ rfl⟩

end EInvoice.Security
