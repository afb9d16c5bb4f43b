import EInvoice.Proofs.RevocationVerdict

/-!
# What a revocation checker remembers

A checker keeps the verdicts its services settle, by serial number, for its time to live. A run
is a sequence of calls (`OcspChecker.run`), each with the clock readings when the cache is
consulted and when a verdict is stored; the services answer as pure functions of what they are
asked, and `RevocationServices.recording` keeps the requests they are sent.

* Only settled verdicts are remembered: every entry says good or revoked
  (`OcspChecker.run_remembersSettled`).
* A call sends no request exactly when its serial number has a verdict younger than the time to
  live, or when its certificate names nothing that can be asked (`check_sends_nothing_iff`). So a
  certificate that names no service sends nothing, though nothing is remembered for it
  (`bareLeaf_sends_nothing`).
* When the calls that share a serial number share the issuer, the responders and the
  distribution points, the cache is transparent: every call answers as a fresh check
  (`run_transparent`). The key is the serial number alone, so two issuers' certificates with one
  serial number are told apart by nothing (`sharedSerial_answered_from_cache`).

The program's checker settles nothing, so it remembers nothing, and each of its calls answers as
`checkRevocation` does (`run_unproxied`).
-/

namespace EInvoice.Security

open EInvoice.Text EInvoice.Pki EInvoice.Net

/-- One call of a checker: the certificate, its issuer, and the clock readings when the cache is
consulted and when a verdict is stored. -/
structure RevocationCall where
  cert : Certificate
  issuer : Certificate
  askedAt : Int
  answeredAt : Int

/-- Run calls in order on a checker: their verdicts, and the checker after them. -/
def OcspChecker.run (svc : RevocationServices Id) (k : OcspChecker) :
    List RevocationCall → List (Except CertificateError Unit) × OcspChecker
  | [] => ([], k)
  | x :: xs =>
    let out := Id.run (k.check svc x.cert x.issuer x.askedAt x.answeredAt)
    let rest := OcspChecker.run svc out.2 xs
    (out.1 :: rest.1, rest.2)

/-- A check that settles the status finds the certificate good or revoked. -/
theorem freshCheck_settled {p : RevocationPolicy} {svc : RevocationServices Id}
    {c issuer : Certificate} (h : (Id.run (freshCheck p svc c issuer)).2 = true) :
    (Id.run (freshCheck p svc c issuer)).1 = .ok () ∨
      ∃ d, (Id.run (freshCheck p svc c issuer)).1 = .error (.revoked d) := by
  rcases freshCheck_cases p svc c issuer with
    ⟨r, -, -, hv⟩ | ⟨r, -, -, hv⟩ | ⟨-, -, q, l, -, hv⟩ | ⟨-, -, msg, hv⟩ <;> rw [hv] at h ⊢
  · exact .inl rfl
  · exact .inr ⟨_, rfl⟩
  · split
    · exact .inr ⟨_, rfl⟩
    · exact .inl rfl
  · cases h

namespace OcspChecker

variable {k : OcspChecker} {svc : RevocationServices Id} {c issuer : Certificate} {a b : Int}

theorem cached_eq_some {s now : Int} {v : Except CertificateError Unit} :
    k.cached s now = some v ↔
      ∃ e, k.cache s = some e ∧ now - e.checkedAt ≤ k.ttl ∧ e.verdict = v := by
  unfold cached
  cases hs : k.cache s with
  | none => simp
  | some e =>
    by_cases ht : now - e.checkedAt > k.ttl
    · simp only [ht, if_true, reduceCtorEq, Option.some.injEq, false_iff]
      rintro ⟨e', he', hle, -⟩
      cases he'
      omega
    · simp only [ht, if_false, Option.some.injEq]
      constructor
      · rintro rfl
        exact ⟨e, rfl, by omega, rfl⟩
      · rintro ⟨e', he', -, rfl⟩
        cases he'
        rfl

@[simp] theorem new_policy (p : RevocationPolicy) (ttl : Int) :
    (OcspChecker.new p ttl).policy = p := rfl

@[simp] theorem store_cache (s : Int) (v : Except CertificateError Unit) (now s' : Int) :
    (k.store s v now).cache s' = if s' = s then some ⟨v, now⟩ else k.cache s' := rfl

@[simp] theorem store_policy (s : Int) (v : Except CertificateError Unit) (now : Int) :
    (k.store s v now).policy = k.policy := rfl

theorem check_of_cached {v : Except CertificateError Unit} (h : k.cached c.serial a = some v) :
    Id.run (k.check svc c issuer a b) = (v, k) := by
  simp only [check, h, Id.run_pure]

theorem check_of_not_cached (h : k.cached c.serial a = none) :
    Id.run (k.check svc c issuer a b) =
      ((Id.run (freshCheck k.policy svc c issuer)).1,
        if (Id.run (freshCheck k.policy svc c issuer)).2 then
          k.store c.serial (Id.run (freshCheck k.policy svc c issuer)).1 b else k) := by
  simp only [check, h, Id.run_bind, Id.run_pure]

theorem check_policy : (Id.run (k.check svc c issuer a b)).2.policy = k.policy := by
  cases h : k.cached c.serial a with
  | some v => rw [check_of_cached h]
  | none =>
    rw [check_of_not_cached h]
    split <;> rfl

/-! ## What is remembered is settled -/

/-- Every verdict the checker remembers is a settled one: good, or revoked. -/
def RemembersSettled (k : OcspChecker) : Prop :=
  ∀ s e, k.cache s = some e → e.verdict = .ok () ∨ ∃ d, e.verdict = .error (.revoked d)

theorem new_remembersSettled (p : RevocationPolicy) (ttl : Int) :
    (OcspChecker.new p ttl).RemembersSettled := by
  intro s e h
  cases h

theorem check_remembersSettled (hk : k.RemembersSettled) :
    (Id.run (k.check svc c issuer a b)).2.RemembersSettled := by
  cases hc : k.cached c.serial a with
  | some v =>
    rw [check_of_cached hc]
    exact hk
  | none =>
    rw [check_of_not_cached hc]
    -- only a settled verdict is stored, and it is stored for the certificate's serial number
    split
    · rename_i hset
      intro s e he
      rw [store_cache] at he
      split at he
      · cases he
        exact freshCheck_settled hset
      · exact hk s e he
    · exact hk

theorem run_remembersSettled (hk : k.RemembersSettled) (calls : List RevocationCall) :
    (k.run svc calls).2.RemembersSettled := by
  induction calls generalizing k with
  | nil => exact hk
  | cons x xs ih => exact ih (check_remembersSettled hk)

end OcspChecker

/-! ## What a call sends -/

/-- A request of the checker: an OCSP request posted to a responder, or a list fetched from a
distribution point. -/
inductive RevocationRequest where
  | ocsp (url : Url) (request : OcspRequest)
  | crl (url : Url)

/-- Services that answer as `svc` does and keep the requests they are sent, in order. -/
def RevocationServices.recording (svc : RevocationServices Id) :
    RevocationServices (StateM (List RevocationRequest)) where
  askOcsp u r i := do
    modify (· ++ [.ocsp u r])
    pure (Id.run (svc.askOcsp u r i))
  fetchCrl u i := do
    modify (· ++ [.crl u])
    pure (Id.run (svc.fetchCrl u i))

theorem recording_askOcsp (svc : RevocationServices Id) (u : Url) (r : OcspRequest)
    (i : Certificate) (log : List RevocationRequest) :
    (svc.recording.askOcsp u r i).run log = pure (Id.run (svc.askOcsp u r i), log ++ [.ocsp u r]) :=
  rfl

theorem recording_fetchCrl (svc : RevocationServices Id) (u : Url) (i : Certificate)
    (log : List RevocationRequest) :
    (svc.recording.fetchCrl u i).run log = pure (Id.run (svc.fetchCrl u i), log ++ [.crl u]) :=
  rfl

/-- The responder is sent a request when its URL can be read. -/
theorem ocspFinding_recording (svc : RevocationServices Id) (c issuer : Certificate)
    (log : List RevocationRequest) :
    (ocspFinding svc.recording c issuer).run log =
      pure (Id.run (ocspFinding svc c issuer),
        log ++ (ocspUrl c).toList.map fun u => .ocsp u (ocspRequest c issuer)) := by
  unfold ocspUrl
  rcases hs : c.ocspServers with _ | ⟨s, _⟩
  · simp [ocspFinding, hs]
  · cases hu : Url.parse s with
    | error f => simp [ocspFinding, hs, hu, Except.toOption]
    | ok u => simp [ocspFinding, hs, hu, Except.toOption, RevocationServices.recording]

/-- The points are asked in order until one gives a list; each whose URL can be read is sent a
request. -/
theorem crlPointsFinding_recording (svc : RevocationServices Id) (c issuer : Certificate)
    (points : List String) (last : String) (log : List RevocationRequest) :
    ∃ sent, (crlPointsFinding svc.recording c issuer points last).run log =
        pure (Id.run (crlPointsFinding svc c issuer points last), log ++ sent) ∧
      (sent = [] ↔ ∀ q ∈ points, (Url.parse q).toOption = none) := by
  induction points generalizing last log with
  | nil => exact ⟨[], by simp [crlPointsFinding]⟩
  | cons q qs ih =>
    cases hu : Url.parse q with
    | error f =>
      obtain ⟨sent, hrun, hsent⟩ := ih f.message log
      refine ⟨sent, by simpa [crlPointsFinding, hu] using hrun, ?_⟩
      simp [hsent, hu, Except.toOption]
    | ok u =>
      cases hf : Id.run (svc.fetchCrl u issuer) with
      | ok l =>
        refine ⟨[.crl u], ?_, by simp [hu, Except.toOption]⟩
        rw [crlPointsFinding, crlPointsFinding, hu]
        simp only [StateT.run_bind, recording_fetchCrl, hf, Id.run_bind, pure_bind]
        rfl
      | error e =>
        obtain ⟨sent, hrun, -⟩ := ih (crlFailureText e) (log ++ [.crl u])
        refine ⟨.crl u :: sent, ?_, by simp [hu, Except.toOption]⟩
        rw [crlPointsFinding, crlPointsFinding, hu]
        simp only [StateT.run_bind, recording_fetchCrl, hf, Id.run_bind, pure_bind, hrun]
        simp

theorem crlFinding_recording (svc : RevocationServices Id) (c issuer : Certificate)
    (log : List RevocationRequest) :
    ∃ sent, (crlFinding svc.recording c issuer).run log =
        pure (Id.run (crlFinding svc c issuer), log ++ sent) ∧
      (sent = [] ↔ ∀ q ∈ c.crlDistributionPoints, (Url.parse q).toOption = none) := by
  unfold crlFinding
  split
  · rename_i hnil
    exact ⟨[], by simp, by simp [hnil]⟩
  · exact crlPointsFinding_recording svc c issuer _ "" log

theorem ocspUrl_of_answer {svc : RevocationServices Id} {c issuer : Certificate}
    {r : OcspResponse} (h : ocspAnswer svc c issuer = some r) : ocspUrl c ≠ none := by
  intro hu
  simp [ocspAnswer, hu] at h

/-- A check sends the responder's request when the responder's URL can be read, and then, when
it goes on to the lists, a request for each point it asks whose URL can be read. So it sends
nothing exactly when it has nothing it can ask. -/
theorem freshCheck_recording (p : RevocationPolicy) (svc : RevocationServices Id)
    (c issuer : Certificate) (log : List RevocationRequest) :
    ∃ sent, (freshCheck p svc.recording c issuer).run log =
        pure (Id.run (freshCheck p svc c issuer), log ++ sent) ∧
      (sent = [] ↔ ocspUrl c = none ∧
        (p.crlFallback = false ∨ ∀ q ∈ c.crlDistributionPoints, (Url.parse q).toOption = none)) := by
  rw [freshCheck, StateT.run_bind, ocspFinding_recording, pure_bind]
  generalize hA : (ocspUrl c).toList.map
    (fun u => RevocationRequest.ocsp u (ocspRequest c issuer)) = asked
  have hasked : asked = [] ↔ ocspUrl c = none := by
    subst hA
    cases ocspUrl c <;> simp
  rcases ocspFinding_cases svc c issuer with ⟨hg, r, hr, -⟩ | ⟨r, hr, -, hrev⟩ | ⟨-, w, hw⟩
  · -- a good status: nothing more is asked
    refine ⟨asked, by simp only [hg, freshCheck, Id.run_bind, Id.run_pure]; rfl, ?_⟩
    simp [hasked, ocspUrl_of_answer hr]
  · refine ⟨asked, by simp only [hrev, freshCheck, Id.run_bind, Id.run_pure]; rfl, ?_⟩
    simp [hasked, ocspUrl_of_answer hr]
  · simp only [hw]
    cases hfb : p.crlFallback with
    | false =>
      refine ⟨asked, by simp only [freshCheck, Id.run_bind, hw, hfb]; rfl, by simp [hasked]⟩
    | true =>
      -- the lists are asked after the responder
      obtain ⟨sent, hrun, hsent⟩ := crlFinding_recording svc c issuer (log ++ asked)
      refine ⟨asked ++ sent, ?_, by simp [hasked, hsent]⟩
      simp only [if_true, StateT.run_bind, hrun, pure_bind, freshCheck, Id.run_bind, hw, hfb,
        List.append_assoc]
      split <;> rfl

/-- A call sends no request exactly when its serial number has a verdict younger than the time
to live, which it then returns, or when its certificate names nothing the check could ask: no
responder whose URL can be read and, with the fallback, no distribution point whose URL can be
read. -/
theorem check_sends_nothing_iff (k : OcspChecker) (svc : RevocationServices Id)
    (c issuer : Certificate) (askedAt answeredAt : Int) (log : List RevocationRequest) :
    ∃ sent, (k.check svc.recording c issuer askedAt answeredAt).run log =
        pure (Id.run (k.check svc c issuer askedAt answeredAt), log ++ sent) ∧
      (sent = [] ↔ (k.cached c.serial askedAt).isSome ∨
        (ocspUrl c = none ∧ (k.policy.crlFallback = false ∨
          ∀ q ∈ c.crlDistributionPoints, (Url.parse q).toOption = none))) := by
  cases hc : k.cached c.serial askedAt with
  | some v =>
    refine ⟨[], ?_, by simp⟩
    simp only [OcspChecker.check, hc, Id.run_pure, List.append_nil]
    rfl
  | none =>
    obtain ⟨sent, hrun, hsent⟩ := freshCheck_recording k.policy svc c issuer log
    refine ⟨sent, ?_, by simp [hsent]⟩
    simp only [OcspChecker.check, hc, StateT.run_bind, hrun, pure_bind, Id.run_bind]
    rfl

/-! ## A cache that answers as a fresh check -/

theorem readOcspAnswer_congr {c c' : Certificate} (h : c.serial = c'.serial) :
    readOcspAnswer c = readOcspAnswer c' := by
  funext a
  rcases a with (e | e) | r <;> simp only [readOcspAnswer, revokedAtDetail, h]

theorem readList_congr {c c' : Certificate} (h : c.serial = c'.serial) :
    readList c = readList c' := by
  funext q l
  simp only [readList, listedInDetail, h]

theorem crlPointsFinding_congr {m : Type → Type} [Monad m] (svc : RevocationServices m)
    {c c' : Certificate} (h : c.serial = c'.serial) (issuer : Certificate) (points : List String)
    (last : String) :
    crlPointsFinding svc c issuer points last = crlPointsFinding svc c' issuer points last := by
  induction points generalizing last with
  | nil => rfl
  | cons q qs ih => simp only [crlPointsFinding, readList_congr h, ih]

/-- A check reads a certificate's serial number, responders and distribution points, and
nothing else of it. -/
theorem freshCheck_congr {m : Type → Type} [Monad m] (p : RevocationPolicy)
    (svc : RevocationServices m) {c c' : Certificate} (issuer : Certificate)
    (hs : c.serial = c'.serial) (ho : c.ocspServers = c'.ocspServers)
    (hd : c.crlDistributionPoints = c'.crlDistributionPoints) :
    freshCheck p svc c issuer = freshCheck p svc c' issuer := by
  have hocsp : ocspFinding svc c issuer = ocspFinding svc c' issuer := by
    simp only [ocspFinding, ocspRequest, readOcspAnswer_congr hs, ho, hs]
  have hcrl : crlFinding svc c issuer = crlFinding svc c' issuer := by
    simp only [crlFinding, hd, crlPointsFinding_congr svc hs]
  simp only [freshCheck, hocsp, hcrl]

/-- Calls that share a serial number are about one certificate of one issuer, as far as the
check reads it: the same issuer, responders and distribution points. -/
def SerialsCoherent (calls : List RevocationCall) : Prop :=
  ∀ x ∈ calls, ∀ y ∈ calls, x.cert.serial = y.cert.serial →
    x.issuer = y.issuer ∧ x.cert.ocspServers = y.cert.ocspServers ∧
      x.cert.crlDistributionPoints = y.cert.crlDistributionPoints

/-- What the checker remembers for a serial number is the verdict a fresh check gives every call
of `calls` about it. -/
def OcspChecker.Faithful (svc : RevocationServices Id) (calls : List RevocationCall)
    (k : OcspChecker) : Prop :=
  ∀ s e, k.cache s = some e → ∀ x ∈ calls, x.cert.serial = s →
    e.verdict = (Id.run (freshCheck k.policy svc x.cert x.issuer)).1

namespace OcspChecker

variable {k : OcspChecker} {svc : RevocationServices Id} {calls : List RevocationCall}

theorem new_faithful (p : RevocationPolicy) (ttl : Int) :
    (OcspChecker.new p ttl).Faithful svc calls := by
  intro s e h
  cases h

/-- One call about a certificate of a coherent run answers as a fresh check, and what the checker
then remembers is still faithful. -/
theorem check_faithful (hco : SerialsCoherent calls) {x : RevocationCall} (hx : x ∈ calls)
    (hk : k.Faithful svc calls) :
    (Id.run (k.check svc x.cert x.issuer x.askedAt x.answeredAt)).1 =
        (Id.run (freshCheck k.policy svc x.cert x.issuer)).1 ∧
      (Id.run (k.check svc x.cert x.issuer x.askedAt x.answeredAt)).2.Faithful svc calls := by
  cases hc : k.cached x.cert.serial x.askedAt with
  | some v =>
    -- a remembered verdict is what a fresh check gives this very call
    obtain ⟨e, he, -, rfl⟩ := cached_eq_some.1 hc
    rw [check_of_cached hc]
    exact ⟨hk _ e he x hx rfl, hk⟩
  | none =>
    rw [check_of_not_cached hc]
    refine ⟨rfl, ?_⟩
    split
    · intro s e he y hy hys
      rw [store_cache] at he
      split at he
      · -- the new entry: calls about the same serial number get the same fresh verdict
        cases he
        obtain ⟨hi, ho, hd⟩ := hco x hx y hy (by omega)
        rw [store_policy, hi, freshCheck_congr k.policy svc y.issuer (by omega) ho hd]
      · exact hk s e he y hy hys
    · exact hk

theorem run_faithful (hco : SerialsCoherent calls) (xs : List RevocationCall) (hxs : xs ⊆ calls)
    (hk : k.Faithful svc calls) :
    (k.run svc xs).1 = xs.map fun x => (Id.run (freshCheck k.policy svc x.cert x.issuer)).1 := by
  induction xs generalizing k with
  | nil => rfl
  | cons x xs ih =>
    obtain ⟨hv, hk'⟩ := check_faithful hco (hxs List.mem_cons_self) hk
    have hrest := ih (fun y hy => hxs (List.mem_cons_of_mem x hy)) hk'
    rw [check_policy] at hrest
    simp only [run, List.map_cons, hv, hrest]

end OcspChecker

/-- When serial numbers name one certificate of one issuer, the cache is transparent: every call
of a run from a new checker gives the verdict a fresh check gives it alone, whatever the clock
readings and the time to live. -/
theorem run_transparent (p : RevocationPolicy) (ttl : Int) (svc : RevocationServices Id)
    (calls : List RevocationCall) (hco : SerialsCoherent calls) :
    ((OcspChecker.new p ttl).run svc calls).1 =
      calls.map fun x => (Id.run (freshCheck p svc x.cert x.issuer)).1 :=
  OcspChecker.run_faithful hco calls (fun _ h => h) (OcspChecker.new_faithful p ttl)

/-! ## Serial numbers shared across issuers -/

/-- A certificate with serial number 7, issued by the issuer of this name, that names a
responder. -/
def sharedSerialLeaf (issuerName : Bytes) : Certificate :=
  { raw := [], rawTbs := [], version := 3, serial := 7, signatureAlgorithm := ⟨[], []⟩,
    rawIssuer := issuerName, issuer := ⟨[]⟩, notBefore := Clock.Time.zero,
    notAfter := Clock.Time.zero, rawSubject := [], subject := ⟨[]⟩, rawSpki := [],
    keyAlgorithm := ⟨[], []⟩, keyBits := [], publicKey := none, signature := [],
    ocspServers := ["http://ocsp.example/"] }

/-- An issuer, known by its name. -/
def namedIssuer (name : Bytes) : Certificate := { sharedSerialLeaf [] with rawSubject := name }

/-- A responder that finds the certificates of the issuer named `A` good and those of any other
issuer revoked. -/
def issuerAwareServices : RevocationServices Id where
  askOcsp _ r _ := .ok ⟨r.serial, if r.issuerName = [0x41] then 0 else 1, Clock.Time.zero⟩
  fetchCrl _ _ := .error (.unanswered "no list")

/-- The cache is keyed by the serial number alone: once a certificate of issuer `A` is found
good, a certificate of issuer `B` with the same serial number is passed from the cache, though a
fresh check finds it revoked. -/
theorem sharedSerial_answered_from_cache (p : RevocationPolicy) :
    ((OcspChecker.new p 3600000000000).run issuerAwareServices
        [⟨sharedSerialLeaf [0x41], namedIssuer [0x41], 0, 0⟩,
          ⟨sharedSerialLeaf [0x42], namedIssuer [0x42], 1, 1⟩]).1 = [.ok (), .ok ()] ∧
    ∃ d, (Id.run (freshCheck p issuerAwareServices (sharedSerialLeaf [0x42])
      (namedIssuer [0x42]))).1 = .error (.revoked d) :=
  ⟨rfl, _, rfl⟩

/-- A certificate with serial number 5 that names no responder and no distribution point. -/
def bareLeaf : Certificate := { sharedSerialLeaf [] with serial := 5, ocspServers := [] }

/-- A call about a certificate that names no service sends nothing, though nothing is
remembered for it, before the call or after. -/
theorem bareLeaf_sends_nothing (svc : RevocationServices Id) :
    (OcspChecker.new ⟨true, false⟩ 3600000000000).cached 5 0 = none ∧
    (((OcspChecker.new ⟨true, false⟩ 3600000000000).check svc.recording bareLeaf bareLeaf 0 0).run
        []).2 = [] ∧
    ((((OcspChecker.new ⟨true, false⟩ 3600000000000).check svc.recording bareLeaf bareLeaf 0 0).run
        []).1.2.cache 5).isNone :=
  ⟨rfl, rfl, rfl⟩

/-! ## The program's checker -/

/-- The program's checker never remembers a verdict: each call of a run answers as
`checkRevocation` does, and the checker stays as new. -/
theorem run_unproxied (p : RevocationPolicy) (ttl : Int) (calls : List RevocationCall) :
    (OcspChecker.new p ttl).run .unproxied calls =
      (calls.map fun x => checkRevocation p x.cert x.issuer, OcspChecker.new p ttl) := by
  induction calls with
  | nil => rfl
  | cons x xs ih =>
    have hc : (OcspChecker.new p ttl).cached x.cert.serial x.askedAt = none := rfl
    obtain ⟨msg, hv⟩ := freshCheck_unproxied p x.cert x.issuer
    -- nothing is remembered, so the call is a fresh check, and it settles nothing
    have hstep : Id.run ((OcspChecker.new p ttl).check .unproxied x.cert x.issuer x.askedAt
        x.answeredAt) = _ := OcspChecker.check_of_not_cached hc
    simp only [OcspChecker.new_policy, hv, Bool.false_eq_true, if_false] at hstep
    simp only [OcspChecker.run, hstep, ih, List.map_cons, checkRevocation, hv]

end EInvoice.Security
