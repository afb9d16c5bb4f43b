import EInvoice.Security.Validity
import EInvoice.Net.Http
import EInvoice.Crypto.Base64

/-!
# Trust decisions

A trust service (an AuthZEN policy decision point) is asked whether a certificate is bound to
the taxpayer it names. The certificate must name someone: its common name, else its subject
serial number, else its first email address or URI (`subjectName`). Without a certificate or a
name, nothing is asked.

Otherwise one evaluation request is sent (`evaluationRequest`): the subject is the key named by
that name, the resource the certificate and its chain as an `x5c` array (each DER encoding in
base64, the certificate first), the action the caller's purpose or, when it names none, the
service's default action, and the context the taxpayer number when the subject serial number
is `RUC` followed by one. The answer decides (`verdict`): a decision of trust accepts the
certificate, a refusal rejects it as untrusted, and an evaluation that fails makes it invalid.

The decision point is a parameter (`DecisionPoint`). The service the program is configured with
is asked without the proxy (`sendUnproxied`), so the request never reaches it and the evaluation
fails (`TrustService.remote`).
-/

namespace EInvoice.Security

open EInvoice.Text EInvoice.Pki EInvoice.Net EInvoice.Crypto

/-- A trust service: where its decisions are asked for, and the action asked about when the
caller gives no purpose. -/
structure TrustService where
  /-- the service's base URL, or its full evaluation URL -/
  endpoint : String
  defaultAction : String := "signing"
  deriving Repr, DecidableEq

/-- The subject of an evaluation request: what kind of thing it is and who. -/
structure Subject where
  type : String
  id : String
  deriving Repr, DecidableEq

/-- The resource of an evaluation request, with the key material it carries. -/
structure Resource where
  type : String
  id : String
  key : List String
  deriving Repr, DecidableEq

/-- An AuthZEN evaluation request. -/
structure EvaluationRequest where
  subject : Subject
  resource : Resource
  /-- the name of the action, when there is one -/
  action : Option String
  /-- the taxpayer number the context carries, when there is a context -/
  ruc : Option String
  deriving Repr, DecidableEq

/-- The answer of a decision point. -/
structure Decision where
  decision : Bool
  /-- the reason given, as the client prints it; empty when none is given -/
  reason : String := ""
  deriving Repr, DecidableEq

/-- A policy decision point as the client reaches it: it answers each evaluation request, or the
evaluation fails with the client's message. -/
structure DecisionPoint (m : Type → Type) where
  evaluate : EvaluationRequest → m (Except String Decision)

/-- The name a trust service binds a certificate's key to. -/
def subjectName (c : Certificate) : String :=
  let cn := c.subject.commonName
  let serial := c.subject.lastOf 5
  if !cn.isEmpty then cn
  else if !serial.isEmpty then serial
  else match c.emailAddresses, c.uris with
    | e :: _, _ => e
    | [], u :: _ => match Url.parse u with
      | .ok url => decodeLossy url.render
      | .error _ => u
    | [], [] => ""

/-- The taxpayer number of a certificate: what follows `RUC` in its subject serial number, or
`""` when the serial number does not start with `RUC`. -/
def taxpayerId (c : Certificate) : String :=
  match (c.subject.lastOf 5).toList with
  | 'R' :: 'U' :: 'C' :: rest => String.ofList rest
  | _ => ""

/-- The request that asks about a certificate with its chain for a purpose. -/
def evaluationRequest (defaultAction : String) (c : Certificate) (chain : List Certificate)
    (purpose : String) : EvaluationRequest :=
  let name := subjectName c
  let action := if purpose.isEmpty then defaultAction else purpose
  let ruc := taxpayerId c
  { subject := ⟨"key", name⟩
    resource := ⟨"x5c", name, (c :: chain).map fun x => Base64.encode x.raw⟩
    action := if action.isEmpty then none else some action
    ruc := if ruc.isEmpty then none else some ruc }

/-- What the answer to an evaluation means for the certificate. -/
def verdict : Except String Decision → Except CertificateError Unit
  | .error e => .error (.invalid ("trust evaluation failed: " ++ e))
  | .ok d => if d.decision then .ok () else .error (.untrusted d.reason)

/-- Ask a decision point about a certificate with its chain for a purpose. -/
def TrustService.validate [Monad m] (t : TrustService) (pdp : DecisionPoint m)
    (c : Option Certificate) (chain : List Certificate) (purpose : String) :
    m (Except CertificateError Unit) :=
  match c with
  | none => pure (.error .missing)
  | some c =>
    if (subjectName c).isEmpty then pure (.error (.invalid "certificate has no identifiable subject name"))
    else verdict <$> pdp.evaluate (evaluationRequest t.defaultAction c chain purpose)

/-- The URL decisions are asked at: the endpoint itself when it names the evaluation, else
the evaluation path below it. -/
def TrustService.evaluationUrl (t : TrustService) : String :=
  if t.endpoint.endsWith "/evaluation" then t.endpoint
  else (t.endpoint.dropEndWhile (· = '/')).toString ++ "/access/v1/evaluation"

/-- The configured service, as the program reaches it: the request is sent without the proxy,
so every evaluation fails. -/
def TrustService.remote (t : TrustService) : DecisionPoint Id where
  evaluate _ := .error (match Url.parse t.evaluationUrl with
    | .error f => f.message
    | .ok u => (sendUnproxied "POST" u).message)

/-- Ask the configured trust service about a certificate. -/
def TrustService.check (t : TrustService) (c : Option Certificate) (chain : List Certificate)
    (purpose : String) : Except CertificateError Unit :=
  t.validate t.remote c chain purpose

theorem check_none (t : TrustService) (chain : List Certificate) (purpose : String) :
    t.check none chain purpose = .error .missing := rfl

end EInvoice.Security
