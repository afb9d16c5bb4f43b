import EInvoice.Security.Revocation
import Mathlib

/-!
# What a revocation check decides

The services are left arbitrary and answer as pure functions of what they are asked. Their
answers are read through three views: `ocspAnswer`, the response the certificate's first
responder gives when it can be used; `pointList`, the list one distribution point gives; and
`firstList`, the first distribution point, in the certificate's order, that gives one.

Each finding is decided by these views (`ocspFinding_cases`, `crlFinding_cases`), and a check by
its findings (`freshCheck_cases`): the responder's good or revoked status decides; else, with the
fallback, the first list decides; else nothing is settled, and the check fails in strict mode
only, with an error that is not a revocation. So a certificate is found revoked exactly when the
responder says so or, with the fallback and no status from the responder, the first list names
its serial number (`freshCheck_revoked_iff`).

The responder's status is taken whatever serial number it is about: a good status about
another certificate passes one that the list names as revoked (`otherSerial_good_passes`).

The program's checker reaches no service, so it settles nothing (`freshCheck_unproxied`).
-/

namespace EInvoice.Security

open EInvoice.Text EInvoice.Pki EInvoice.Net

/-! ## What the services answer -/

section
variable (svc : RevocationServices Id) (c issuer : Certificate)

/-- The URL of the first OCSP responder a certificate names, when it can be read. -/
def ocspUrl : Option Url := c.ocspServers.head?.bind fun s => (Url.parse s).toOption

/-- The answer the certificate's responder gives about it, read against the issuer, when it can
be used. -/
def ocspAnswer : Option OcspResponse :=
  (ocspUrl c).bind fun u => (Id.run (svc.askOcsp u (ocspRequest c issuer) issuer)).toOption

/-- The list a distribution point gives, when its URL can be read and its list can be read and
is signed by the issuer. -/
def pointList (p : String) : Option RevocationList :=
  (Url.parse p).toOption.bind fun u => (Id.run (svc.fetchCrl u issuer)).toOption

/-- The first of some distribution points that gives a list, with that list. -/
def firstList (points : List String) : Option (String × RevocationList) :=
  points.findSome? fun p => (pointList svc issuer p).map (p, ·)

end

/-! ## Findings -/

variable {svc : RevocationServices Id} {c issuer : Certificate}

/-- An answer that cannot be used settles nothing. -/
theorem readOcspAnswer_error (c : Certificate) (e : ServiceFailure) :
    ∃ why, readOcspAnswer c (.error e) = .unsettled why := by
  cases e <;> exact ⟨_, rfl⟩

theorem ocspFinding_of_answer {r : OcspResponse} (h : ocspAnswer svc c issuer = some r) :
    Id.run (ocspFinding svc c issuer) = readOcspAnswer c (.ok r) := by
  unfold ocspAnswer ocspUrl at h
  rcases hs : c.ocspServers with _ | ⟨s, _⟩
  · simp [hs] at h
  · cases hu : Url.parse s with
    | error f => simp [hs, hu, Except.toOption] at h
    | ok u =>
      cases ha : Id.run (svc.askOcsp u (ocspRequest c issuer) issuer) with
      | error e => simp [hs, hu, ha, Except.toOption] at h
      | ok r' =>
        simp only [hs, hu, ha, Except.toOption, List.head?_cons, Option.bind_some,
          Option.some.injEq] at h
        subst h
        simp only [ocspFinding, hs, hu, Id.run_map, ha]

theorem ocspFinding_of_no_answer (h : ocspAnswer svc c issuer = none) :
    ∃ why, Id.run (ocspFinding svc c issuer) = .unsettled why := by
  unfold ocspAnswer ocspUrl at h
  rcases hs : c.ocspServers with _ | ⟨s, _⟩
  · exact ⟨_, by simp only [ocspFinding, hs]; rfl⟩
  · cases hu : Url.parse s with
    | error f => exact ⟨_, by simp only [ocspFinding, hs, hu]; rfl⟩
    | ok u =>
      simp only [hs, hu, List.head?_cons, Option.bind_some, Except.toOption] at h
      cases ha : Id.run (svc.askOcsp u (ocspRequest c issuer) issuer) with
      | error e =>
        simp only [ocspFinding, hs, hu, Id.run_map, ha]
        exact readOcspAnswer_error c e
      | ok r => simp [ha] at h

/-- The verdict of a list on a certificate. -/
theorem crlPointsFinding_of_list {q : String} {l : RevocationList}
    (h : pointList svc issuer q = some l) (qs : List String) (last : String) :
    Id.run (crlPointsFinding svc c issuer (q :: qs) last) =
      readList c q l := by
  unfold pointList at h
  cases hu : Url.parse q with
  | error f => simp [hu, Except.toOption] at h
  | ok u =>
    simp only [hu, Except.toOption, Option.bind_some] at h
    cases hf : Id.run (svc.fetchCrl u issuer) with
    | error e => simp [hf] at h
    | ok l' =>
      simp only [hf, Option.some.injEq] at h
      subst h
      simp only [crlPointsFinding, hu, Id.run_bind, hf]
      rfl

/-- A point that gives no list passes the question on to the next ones. -/
theorem crlPointsFinding_of_no_list {q : String} (h : pointList svc issuer q = none)
    (qs : List String) (last : String) :
    ∃ last', Id.run (crlPointsFinding svc c issuer (q :: qs) last) =
      Id.run (crlPointsFinding svc c issuer qs last') := by
  unfold pointList at h
  cases hu : Url.parse q with
  | error f => exact ⟨f.message, by simp only [crlPointsFinding, hu]⟩
  | ok u =>
    simp only [hu, Except.toOption, Option.bind_some] at h
    cases hf : Id.run (svc.fetchCrl u issuer) with
    | error e => exact ⟨crlFailureText e, by simp only [crlPointsFinding, hu, Id.run_bind, hf]⟩
    | ok l' => simp [hf] at h

/-- The first point that gives a list decides. -/
theorem crlPointsFinding_of_firstList {points : List String} {p : String} {l : RevocationList}
    (h : firstList svc issuer points = some (p, l)) (last : String) :
    Id.run (crlPointsFinding svc c issuer points last) =
      readList c p l := by
  induction points generalizing last with
  | nil => simp [firstList] at h
  | cons q qs ih =>
    rw [firstList, List.findSome?_cons] at h
    cases hq : pointList svc issuer q with
    | none =>
      simp only [hq, Option.map_none] at h
      obtain ⟨last', hrest⟩ := crlPointsFinding_of_no_list (c := c) hq qs last
      rw [hrest]
      exact ih h last'
    | some l' =>
      simp only [hq, Option.map_some, Option.some.injEq, Prod.mk.injEq] at h
      obtain ⟨rfl, rfl⟩ := h
      exact crlPointsFinding_of_list hq qs last

/-- When no point gives a list, nothing is settled. -/
theorem crlPointsFinding_of_no_firstList {points : List String}
    (h : firstList svc issuer points = none) (last : String) :
    ∃ why, Id.run (crlPointsFinding svc c issuer points last) = .unsettled why := by
  induction points generalizing last with
  | nil => exact ⟨_, rfl⟩
  | cons q qs ih =>
    rw [firstList, List.findSome?_cons] at h
    cases hq : pointList svc issuer q with
    | none =>
      simp only [hq, Option.map_none] at h
      obtain ⟨last', hrest⟩ := crlPointsFinding_of_no_list (c := c) hq qs last
      rw [hrest]
      exact ih h last'
    | some l' => simp [hq] at h

theorem crlFinding_of_firstList {p : String} {l : RevocationList}
    (h : firstList svc issuer c.crlDistributionPoints = some (p, l)) :
    Id.run (crlFinding svc c issuer) =
      readList c p l := by
  unfold crlFinding
  split
  · rename_i hnil
    simp [hnil, firstList] at h
  · exact crlPointsFinding_of_firstList h ""

theorem crlFinding_of_no_firstList (h : firstList svc issuer c.crlDistributionPoints = none) :
    ∃ why, Id.run (crlFinding svc c issuer) = .unsettled why := by
  unfold crlFinding
  split
  · exact ⟨_, rfl⟩
  · exact crlPointsFinding_of_no_firstList h ""

/-! ## Verdicts -/

/-- The certificate's responder settles its status: its answer can be used and says good (0) or
revoked (1). -/
def OcspSettles (svc : RevocationServices Id) (c issuer : Certificate) : Prop :=
  ∃ r, ocspAnswer svc c issuer = some r ∧ (r.status = 0 ∨ r.status = 1)

theorem ocspSettles_of_answer {r : OcspResponse} (h : ocspAnswer svc c issuer = some r) :
    OcspSettles svc c issuer ↔ r.status = 0 ∨ r.status = 1 := by
  constructor
  · rintro ⟨r', hr', hs⟩
    rw [h, Option.some.injEq] at hr'
    exact hr' ▸ hs
  · exact fun hs => ⟨r, h, hs⟩

/-- What the OCSP responder can find: good or revoked when its answer says so, and otherwise
nothing settled. -/
theorem ocspFinding_cases (svc : RevocationServices Id) (c issuer : Certificate) :
    (Id.run (ocspFinding svc c issuer) = .good ∧
      ∃ r, ocspAnswer svc c issuer = some r ∧ r.status = 0) ∨
    (∃ r, ocspAnswer svc c issuer = some r ∧ r.status = 1 ∧
      Id.run (ocspFinding svc c issuer) = .revoked (revokedAtDetail c r.revokedAt)) ∨
    (¬OcspSettles svc c issuer ∧ ∃ why, Id.run (ocspFinding svc c issuer) = .unsettled why) := by
  cases ha : ocspAnswer svc c issuer with
  | none =>
    refine .inr (.inr ⟨?_, ocspFinding_of_no_answer ha⟩)
    rintro ⟨r, hr, -⟩
    simp [ha] at hr
  | some r =>
    rw [ocspFinding_of_answer ha, readOcspAnswer]
    -- the status read decides, whatever serial number it is about
    by_cases h0 : r.status = 0
    · exact .inl ⟨by simp [h0], r, rfl, h0⟩
    · by_cases h1 : r.status = 1
      · exact .inr (.inl ⟨r, rfl, h1, by simp [h1]⟩)
      · refine .inr (.inr ⟨?_, "OCSP status " ++ toString r.status, by simp [h0, h1]⟩)
        rw [ocspSettles_of_answer ha]
        omega

/-- What the distribution points can find: the first list decides, and without one nothing is
settled. -/
theorem crlFinding_cases (svc : RevocationServices Id) (c issuer : Certificate) :
    (∃ p l, firstList svc issuer c.crlDistributionPoints = some (p, l) ∧
      Id.run (crlFinding svc c issuer) = readList c p l) ∨
    (firstList svc issuer c.crlDistributionPoints = none ∧
      ∃ why, Id.run (crlFinding svc c issuer) = .unsettled why) := by
  cases hf : firstList svc issuer c.crlDistributionPoints with
  | none => exact .inr ⟨rfl, crlFinding_of_no_firstList hf⟩
  | some pl =>
    obtain ⟨p, l⟩ := pl
    exact .inl ⟨p, l, rfl, crlFinding_of_firstList hf⟩

/-- What a check can come to: the responder's good or revoked status; else, with the fallback,
the first list's; else no settled status, and a failure in strict mode only. -/
theorem freshCheck_cases (p : RevocationPolicy) (svc : RevocationServices Id)
    (c issuer : Certificate) :
    (∃ r, ocspAnswer svc c issuer = some r ∧ r.status = 0 ∧
      Id.run (freshCheck p svc c issuer) = (.ok (), true)) ∨
    (∃ r, ocspAnswer svc c issuer = some r ∧ r.status = 1 ∧
      Id.run (freshCheck p svc c issuer) =
        (.error (.revoked (revokedAtDetail c r.revokedAt)), true)) ∨
    (p.crlFallback = true ∧ ¬OcspSettles svc c issuer ∧
      ∃ q l, firstList svc issuer c.crlDistributionPoints = some (q, l) ∧
        Id.run (freshCheck p svc c issuer) =
          (if c.serial ∈ l.revoked then .error (.revoked (listedInDetail c q)) else .ok (),
            true)) ∨
    (¬OcspSettles svc c issuer ∧
      (p.crlFallback = true → firstList svc issuer c.crlDistributionPoints = none) ∧
      ∃ msg, Id.run (freshCheck p svc c issuer) =
        (if p.strict then .error (.plain msg) else .ok (), false)) := by
  rcases ocspFinding_cases svc c issuer with ⟨hg, r, hr, h0⟩ | ⟨r, hr, h1, hrev⟩ | ⟨hns, w, hw⟩
  · exact .inl ⟨r, hr, h0, by simp only [freshCheck, Id.run_bind, hg, Id.run_pure]⟩
  · exact .inr (.inl ⟨r, hr, h1, by simp only [freshCheck, Id.run_bind, hrev, Id.run_pure]⟩)
  -- the responder settles nothing: the fallback and then the policy decide
  cases hfb : p.crlFallback with
  | false =>
    refine .inr (.inr (.inr ⟨hns, by simp, "revocation check failed: " ++ w, ?_⟩))
    simp only [freshCheck, Id.run_bind, hw, hfb, Bool.false_eq_true, if_false, Id.run_pure]
  | true =>
    rcases crlFinding_cases svc c issuer with ⟨q, l, hf, hl⟩ | ⟨hf, w', hw'⟩
    · refine .inr (.inr (.inl ⟨rfl, hns, q, l, hf, ?_⟩))
      by_cases hm : c.serial ∈ l.revoked <;>
        simp only [readList, List.contains_iff_mem, hm, if_true, if_false] at hl ⊢ <;>
        simp only [freshCheck, Id.run_bind, hw, hfb, if_true, hl, Id.run_pure]
    · refine .inr (.inr (.inr ⟨hns, fun _ => hf,
        "revocation check failed: OCSP: " ++ w ++ ", CRL: " ++ w', ?_⟩))
      simp only [freshCheck, Id.run_bind, hw, hfb, if_true, hw', Id.run_pure]

/-- A check finds a certificate revoked exactly when the responder's answer says so, or, with
the fallback and no status settled by the responder, the first list that can be read names the
certificate's serial number. -/
theorem freshCheck_revoked_iff (p : RevocationPolicy) (svc : RevocationServices Id)
    (c issuer : Certificate) :
    (∃ d, (Id.run (freshCheck p svc c issuer)).1 = .error (.revoked d)) ↔
      (∃ r, ocspAnswer svc c issuer = some r ∧ r.status = 1) ∨
      (p.crlFallback = true ∧ ¬OcspSettles svc c issuer ∧
        ∃ q l, firstList svc issuer c.crlDistributionPoints = some (q, l) ∧ c.serial ∈ l.revoked) := by
  rcases freshCheck_cases p svc c issuer with
    ⟨r, hr, h0, hv⟩ | ⟨r, hr, h1, hv⟩ | ⟨hfb, hns, q, l, hf, hv⟩ | ⟨hns, hnf, msg, hv⟩
  · -- the responder says good
    have hset : OcspSettles svc c issuer := (ocspSettles_of_answer hr).2 (.inl h0)
    rw [hv]
    constructor
    · rintro ⟨d, ⟨⟩⟩
    · rintro (⟨r', hr', h1⟩ | ⟨-, hns, -⟩)
      · rw [hr, Option.some.injEq] at hr'
        subst hr'
        omega
      · exact absurd hset hns
  · -- the responder says revoked
    rw [hv]
    exact ⟨fun _ => .inl ⟨r, hr, h1⟩, fun _ => ⟨_, rfl⟩⟩
  · -- the first list decides
    have hno : ¬∃ r, ocspAnswer svc c issuer = some r ∧ r.status = 1 :=
      fun ⟨r, hr, h1⟩ => hns ⟨r, hr, .inr h1⟩
    rw [hv]
    by_cases hm : c.serial ∈ l.revoked
    · simp only [hm, if_true]
      exact ⟨fun _ => .inr ⟨hfb, hns, q, l, hf, hm⟩, fun _ => ⟨_, rfl⟩⟩
    · simp only [hm, if_false]
      constructor
      · rintro ⟨d, ⟨⟩⟩
      · rintro (h | ⟨-, -, q', l', hf', hm'⟩)
        · exact absurd h hno
        · rw [hf, Option.some.injEq, Prod.mk.injEq] at hf'
          obtain ⟨rfl, rfl⟩ := hf'
          exact absurd hm' hm
  · -- nothing is settled
    rw [hv]
    constructor
    · rintro ⟨d, hd⟩
      cases hs : p.strict <;> simp [hs] at hd
    · rintro (⟨r, hr, h1⟩ | ⟨hfb, -, q, l, hf, -⟩)
      · exact absurd ⟨r, hr, .inr h1⟩ hns
      · simp [hnf hfb] at hf

/-! ## A good status about another certificate -/

/-- A certificate, serial number 301, that names a responder and a distribution point. -/
def listedLeaf : Certificate :=
  { raw := [], rawTbs := [], version := 3, serial := 301, signatureAlgorithm := ⟨[], []⟩,
    rawIssuer := [], issuer := ⟨[]⟩, notBefore := Clock.Time.zero, notAfter := Clock.Time.zero,
    rawSubject := [], subject := ⟨[]⟩, rawSpki := [], keyAlgorithm := ⟨[], []⟩, keyBits := [],
    publicKey := none, signature := [], ocspServers := ["http://ocsp.example/"],
    crlDistributionPoints := ["http://crl.example/ca3.crl"] }

/-- Services whose responder answers every request with a good status about serial number 302,
and whose distribution point lists 301 as revoked. -/
def misdirectedServices : RevocationServices Id where
  askOcsp _ _ _ := .ok ⟨302, 0, Clock.Time.zero⟩
  fetchCrl _ _ := .ok ⟨[301]⟩

/-- A good status about another serial number passes a certificate that its list names as
revoked, whatever the policy: the status is taken whatever serial number it is about, and the
list is not asked. -/
theorem otherSerial_good_passes (p : RevocationPolicy) (issuer : Certificate) :
    ocspAnswer misdirectedServices listedLeaf issuer = some ⟨302, 0, Clock.Time.zero⟩ ∧
    firstList misdirectedServices issuer listedLeaf.crlDistributionPoints =
      some ("http://crl.example/ca3.crl", ⟨[301]⟩) ∧
    Id.run (freshCheck p misdirectedServices listedLeaf issuer) = (.ok (), true) :=
  ⟨rfl, rfl, rfl⟩

/-! ## The program's checker -/

theorem ocspAnswer_unproxied (c issuer : Certificate) :
    ocspAnswer .unproxied c issuer = none := by
  unfold ocspAnswer
  cases ocspUrl c <;> rfl

theorem firstList_unproxied (issuer : Certificate) (points : List String) :
    firstList .unproxied issuer points = none := by
  have hp : ∀ q, pointList .unproxied issuer q = none := by
    intro q
    unfold pointList
    cases (Url.parse q).toOption <;> rfl
  simp [firstList, hp]

/-- The program's checker settles no status, so it remembers nothing: it accepts every
certificate when it is not strict, and rejects every one, not as revoked, when it is. -/
theorem freshCheck_unproxied (p : RevocationPolicy) (c issuer : Certificate) :
    ∃ msg, Id.run (freshCheck p .unproxied c issuer) =
      (if p.strict then .error (.plain msg) else .ok (), false) := by
  rcases freshCheck_cases p .unproxied c issuer with
    ⟨r, hr, -⟩ | ⟨r, hr, -⟩ | ⟨-, -, q, l, hf, -⟩ | ⟨-, -, h⟩
  · simp [ocspAnswer_unproxied] at hr
  · simp [ocspAnswer_unproxied] at hr
  · simp [firstList_unproxied] at hf
  · exact h

theorem checkRevocation_eq (p : RevocationPolicy) (c issuer : Certificate) :
    ∃ msg, checkRevocation p c issuer = if p.strict then .error (.plain msg) else .ok () := by
  obtain ⟨msg, h⟩ := freshCheck_unproxied p c issuer
  exact ⟨msg, by rw [checkRevocation, h]⟩

end EInvoice.Security
