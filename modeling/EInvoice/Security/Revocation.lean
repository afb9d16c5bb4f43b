import EInvoice.Security.Validity
import EInvoice.Net.Http

/-!
# Revocation checking

A certificate is checked against its issuer's revocation services (`freshCheck`): first the OCSP
responder it names, then, when that does not settle the question and the fallback is on, the CRL
distribution points it names, in order, the first list that can be read and is signed by the
issuer deciding. A status the services settle (good or revoked) is remembered for the
certificate's serial number for a while (`OcspChecker.check`); a question they leave open is
asked again next time.

The services are a parameter (`RevocationServices`): each exchange is the request, its answer and
the reading of that answer against the issuer, as the checker receives them. An OCSP status is
taken as it is read, whatever serial number it is about.

The program's checker sends its requests without the proxy (`RevocationServices.unproxied`), so
none of them reaches a service and the question is never settled: the check fails only in strict
mode, with why each service could not be asked (`checkRevocation`).
-/

namespace EInvoice.Security

open EInvoice.Text EInvoice.Pki EInvoice.Net EInvoice.Clock

/-- How revocation is checked. -/
structure RevocationPolicy where
  /-- ask the CRL distribution points when OCSP does not settle the status -/
  crlFallback : Bool
  /-- fail when the status cannot be settled -/
  strict : Bool
  deriving Repr, DecidableEq

/-- What an OCSP request asks about: a serial number, of the issuer with this name and key. -/
structure OcspRequest where
  issuerName : Bytes
  issuerKey : Bytes
  serial : Int
  deriving Repr, DecidableEq

/-- The OCSP request about a certificate of an issuer. -/
def ocspRequest (c issuer : Certificate) : OcspRequest :=
  ⟨issuer.rawSubject, issuer.keyBits, c.serial⟩

/-- An OCSP response as it is read against the issuer: the serial number its status is about,
the status (0 good, 1 revoked, 2 unknown) and, for a revoked one, since when. -/
structure OcspResponse where
  serial : Int
  status : Nat
  revokedAt : Time := Time.zero
  deriving Repr, DecidableEq

/-- A certificate revocation list as it is read: the serial numbers it lists. -/
structure RevocationList where
  revoked : List Int
  deriving Repr, DecidableEq

/-- Why an answer of a revocation service cannot be used. -/
inductive ServiceFailure where
  /-- no `200` answer was read whole: the client's message -/
  | unanswered (message : String)
  /-- the answer is no response or list: the reader's message -/
  | unreadable (message : String)
  /-- the answer is not signed by the issuer: the check's message -/
  | unsigned (message : String)
  deriving Repr, DecidableEq

/-- The revocation services as the checker reaches them. -/
structure RevocationServices (m : Type → Type) where
  /-- post an OCSP request to a responder, and read its answer against the issuer -/
  askOcsp : Url → OcspRequest → Certificate → m (Except ServiceFailure OcspResponse)
  /-- get the CRL at a distribution point, read it, and check that the issuer signed it -/
  fetchCrl : Url → Certificate → m (Except ServiceFailure RevocationList)

/-- What asking a service found out: the certificate is good, it is revoked, or nothing is
settled, and why. -/
inductive Finding where
  | good
  | revoked (detail : String)
  | unsettled (why : String)
  deriving Repr, DecidableEq

/-- How a revocation the responder reports is described: the serial number, and since when. -/
def revokedAtDetail (c : Certificate) (t : Time) : String :=
  "serial " ++ showInt c.serial ++ " at " ++ t.showStamp

/-- How a revocation a list reports is described: the serial number, and the point of the list. -/
def listedInDetail (c : Certificate) (point : String) : String :=
  "serial " ++ showInt c.serial ++ " listed in " ++ point

/-- What an OCSP answer says about a certificate. -/
def readOcspAnswer (c : Certificate) : Except ServiceFailure OcspResponse → Finding
  | .error (.unanswered m) => .unsettled ("OCSP request failed: " ++ m)
  | .error (.unreadable m) => .unsettled ("failed to parse OCSP response: " ++ m)
  | .error (.unsigned m) => .unsettled ("failed to parse OCSP response: " ++ m)
  | .ok r =>
    if r.status = 0 then .good
    else if r.status = 1 then .revoked (revokedAtDetail c r.revokedAt)
    else .unsettled ("OCSP status " ++ toString r.status)

/-- What the list of a distribution point says about a certificate. -/
def readList (c : Certificate) (point : String) (l : RevocationList) : Finding :=
  if l.revoked.contains c.serial then .revoked (listedInDetail c point) else .good

/-- What the first OCSP responder a certificate names finds. -/
def ocspFinding {m : Type → Type} [Monad m] (svc : RevocationServices m)
    (c issuer : Certificate) : m Finding :=
  match c.ocspServers with
  | [] => pure (.unsettled "no OCSP server in certificate")
  | server :: _ =>
    match Url.parse server with
    | .error f => pure (.unsettled f.message)
    | .ok u => readOcspAnswer c <$> svc.askOcsp u (ocspRequest c issuer) issuer

/-- Why a distribution point's list cannot be used. -/
def crlFailureText : ServiceFailure → String
  | .unanswered m => m
  | .unreadable m => "failed to parse CRL: " ++ m
  | .unsigned m => "CRL signature: " ++ m

/-- What the distribution points find, asked in order: the first list that is read and signed
by the issuer decides. When none is, the failure of the last point asked is reported; `last` is
the failure of the point before these. -/
def crlPointsFinding {m : Type → Type} [Monad m] (svc : RevocationServices m)
    (c issuer : Certificate) : List String → String → m Finding
  | [], last => pure (.unsettled ("failed to check CRL: " ++ last))
  | p :: ps, _ =>
    match Url.parse p with
    | .error f => crlPointsFinding svc c issuer ps f.message
    | .ok u => do
      match ← svc.fetchCrl u issuer with
      | .ok l => pure (readList c p l)
      | .error e => crlPointsFinding svc c issuer ps (crlFailureText e)

/-- What the CRL distribution points a certificate names find. -/
def crlFinding {m : Type → Type} [Monad m] (svc : RevocationServices m) (c issuer : Certificate) :
    m Finding :=
  match c.crlDistributionPoints with
  | [] => pure (.unsettled "no CRL distribution points in certificate")
  | ps => crlPointsFinding svc c issuer ps ""

/-- Check a certificate against its issuer's services, remembering nothing: the verdict, and
whether the services settled it. -/
def freshCheck {m : Type → Type} [Monad m] (p : RevocationPolicy) (svc : RevocationServices m)
    (c issuer : Certificate) : m (Except CertificateError Unit × Bool) := do
  match ← ocspFinding svc c issuer with
  | .good => pure (.ok (), true)
  | .revoked d => pure (.error (.revoked d), true)
  | .unsettled ocspWhy =>
    if p.crlFallback then
      match ← crlFinding svc c issuer with
      | .good => pure (.ok (), true)
      | .revoked d => pure (.error (.revoked d), true)
      | .unsettled crlWhy =>
        pure (if p.strict then
          .error (.plain ("revocation check failed: OCSP: " ++ ocspWhy ++ ", CRL: " ++ crlWhy))
          else .ok (), false)
    else
      pure (if p.strict then .error (.plain ("revocation check failed: " ++ ocspWhy)) else .ok (),
        false)

/-- A remembered verdict, and the clock reading (in nanoseconds) when it was stored. -/
structure CacheEntry where
  verdict : Except CertificateError Unit
  checkedAt : Int

/-- A revocation checker: its policy, how long a verdict is remembered (in nanoseconds), and the
verdicts it remembers, by serial number. -/
structure OcspChecker where
  policy : RevocationPolicy
  ttl : Int
  cache : Int → Option CacheEntry

/-- A checker that remembers nothing yet. -/
def OcspChecker.new (p : RevocationPolicy) (ttl : Int) : OcspChecker := ⟨p, ttl, fun _ => none⟩

/-- The verdict remembered for a serial number at clock reading `now`, unless it is older than
the checker's time to live. -/
def OcspChecker.cached (k : OcspChecker) (serial now : Int) :
    Option (Except CertificateError Unit) :=
  match k.cache serial with
  | none => none
  | some e => if now - e.checkedAt > k.ttl then none else some e.verdict

/-- Remember a verdict for a serial number, in place of what was remembered for it. -/
def OcspChecker.store (k : OcspChecker) (serial : Int) (v : Except CertificateError Unit)
    (now : Int) : OcspChecker :=
  { k with cache := fun s => if s = serial then some ⟨v, now⟩ else k.cache s }

/-- Check a certificate against its issuer: the verdict remembered for its serial number, else
the services' verdict, remembered when they settled it. The clock is read when the cache is
consulted (`askedAt`) and when a verdict is stored (`answeredAt`). -/
def OcspChecker.check {m : Type → Type} [Monad m] (k : OcspChecker) (svc : RevocationServices m)
    (c issuer : Certificate) (askedAt answeredAt : Int) :
    m (Except CertificateError Unit × OcspChecker) :=
  match k.cached c.serial askedAt with
  | some v => pure (v, k)
  | none => do
    let (v, settled) ← freshCheck k.policy svc c issuer
    pure (v, if settled then k.store c.serial v answeredAt else k)

/-- The services as the program reaches them: its requests are sent without the proxy, so none
is answered. -/
def RevocationServices.unproxied : RevocationServices Id where
  askOcsp u _ _ := .error (.unanswered (sendUnproxied "POST" u).message)
  fetchCrl u _ := .error (.unanswered (sendUnproxied "GET" u).message)

/-- Check a certificate for revocation by its issuer, as the program's checker does. -/
def checkRevocation (p : RevocationPolicy) (c issuer : Certificate) :
    Except CertificateError Unit :=
  (Id.run (freshCheck p .unproxied c issuer)).1

end EInvoice.Security
