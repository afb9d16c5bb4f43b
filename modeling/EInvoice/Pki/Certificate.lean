import EInvoice.Pki.Name
import EInvoice.Pki.PublicKey
import EInvoice.Net.Url

/-!
# X.509 certificates

A certificate is read from its DER encoding (RFC 5280) in one pass over its fields, each
fault reported by the field it is in: the outer sequence, the to-be-signed part, the version
(1 to 3), the serial number (any integer), the signature algorithm (which must agree with the
one outside the signed part), issuer, validity, subject, the public key, then for version 2
and up the optional unique identifiers, and for version 3 the extensions; last comes the
signature. Bytes after the certificate are refused.

Extensions are read once each; an extension appearing twice is refused. The ones read are
key usage, basic constraints, subject and authority key identifiers, extended key usage,
CRL distribution points, authority information access (OCSP responders and issuer
certificates) and subject alternative names (DNS names, email addresses and URIs, which must
be ASCII; a URI must also be readable as one).
-/

namespace EInvoice.Pki

open EInvoice.Text EInvoice.Asn1 EInvoice.Clock

/-- An algorithm identifier: the algorithm and the whole encoding of its parameters (empty
when absent). -/
structure AlgorithmId where
  algorithm : Oid
  params : Bytes
  deriving Repr, DecidableEq

/-- One extension. -/
structure Extension where
  id : Oid
  critical : Bool
  value : Bytes
  deriving Repr, DecidableEq

/-- A certificate. -/
structure Certificate where
  raw : Bytes
  rawTbs : Bytes
  version : Nat
  serial : Int
  signatureAlgorithm : AlgorithmId
  rawIssuer : Bytes
  issuer : Name
  notBefore : Time
  notAfter : Time
  rawSubject : Bytes
  subject : Name
  rawSpki : Bytes
  keyAlgorithm : AlgorithmId
  keyBits : Bytes
  publicKey : Option PublicKey
  extensions : List Extension := []
  keyUsage : Nat := 0
  isCA : Bool := false
  basicConstraintsValid : Bool := false
  maxPathLen : Int := 0
  subjectKeyId : Bytes := []
  authorityKeyId : Bytes := []
  extKeyUsage : List Oid := []
  crlDistributionPoints : List String := []
  ocspServers : List String := []
  issuingCertificateUrls : List String := []
  dnsNames : List String := []
  emailAddresses : List String := []
  uris : List String := []
  signature : Bytes
  deriving Repr

/-- An algorithm identifier from its content. -/
def readAlgorithmId (der : Bytes) : Except String AlgorithmId := do
  let some (alg, rest) := readOid der | .error "x509: malformed OID"
  if rest.isEmpty then pure ⟨alg, []⟩
  else
    let some (_, params, _, _) := readAnyElement rest | .error "x509: malformed parameters"
    pure ⟨alg, params⟩

/-- One extension from its content. -/
def readExtension (der : Bytes) : Except String Extension := do
  let some (id, der) := readOid der | .error "x509: malformed extension OID field"
  let (critical, der) ← if peek Tag.boolean der then
      match readBoolean der with
      | some r => pure r
      | none => .error "x509: malformed extension critical field"
    else pure (false, der)
  let some (value, _) := read Tag.octetString der | .error "x509: malformed extension value field"
  pure ⟨id, critical, value⟩

/-- The extensions of a certificate, in order, refusing one that appears twice. -/
def readExtensions (der : Bytes) : Except String (List Extension) :=
  go der.length der []
where
  go : Nat → Bytes → List Extension → Except String (List Extension)
    | _, [], acc => .ok acc.reverse
    | 0, _, _ => .error "x509: malformed extension"
    | fuel + 1, s, acc => do
      let some (e, rest) := read Tag.sequence s | .error "x509: malformed extension"
      let ext ← readExtension e
      if acc.any (·.id = ext.id) then
        .error ("x509: certificate contains duplicate extension with OID " ++ quote ext.id.show)
      go fuel rest (ext :: acc)

/-- The key usage bits: bit `i` of the value is the `i`-th named bit of the bit string. -/
def readKeyUsage (der : Bytes) : Except String Nat :=
  match readBitString der with
  | some (b, _) => .ok ((List.range 9).foldl (fun acc i => if b.at i then acc + Nat.pow 2 i else acc) 0)
  | none => .error "x509: invalid key usage"

/-- Basic constraints: whether a CA, and the maximum path length (`-1` when absent). -/
def readBasicConstraints (der : Bytes) : Except String (Bool × Int) := do
  let some (seq, _) := read Tag.sequence der | .error "x509: invalid basic constraints"
  let (isCA, seq) ← if peek Tag.boolean seq then
      match readBoolean seq with
      | some r => pure r
      | none => .error "x509: invalid basic constraints"
    else pure (false, seq)
  if peek Tag.integer seq then
    match readInt64 seq with
    | some (n, _) => pure (isCA, n)
    | none => .error "x509: invalid basic constraints"
  else pure (isCA, -1)

/-- The URIs of CRL distribution points. -/
def readCrlDistributionPoints (der : Bytes) : Except String (List String) := do
  let some (seq, _) := read Tag.sequence der | .error "x509: invalid CRL distribution points"
  points seq.length seq
where
  points : Nat → Bytes → Except String (List String)
    | _, [] => .ok []
    | 0, _ => .error "x509: invalid CRL distribution point"
    | fuel + 1, s => do
      let some (dp, rest) := read Tag.sequence s | .error "x509: invalid CRL distribution point"
      let some (name?, _) := readOptional (Tag.explicit 0) dp | .error "x509: invalid CRL distribution point"
      let here ← match name? with
        | none => pure []
        | some nameDer =>
          match read (Tag.explicit 0) nameDer with
          | none => .error "x509: invalid CRL distribution point"
          | some (full, _) => uris full.length full
      let more ← points fuel rest
      pure (here ++ more)
  uris : Nat → Bytes → Except String (List String)
    | _, [] => .ok []
    | 0, _ => .ok []
    | fuel + 1, s =>
      if !peek (Tag.context 6) s then .ok []
      else match read (Tag.context 6) s with
        | none => .error "x509: invalid CRL distribution point"
        | some (u, rest) => (decodeLossy u :: ·) <$> uris fuel rest

/-- The authority key identifier. -/
def readAuthorityKeyId (e : Extension) : Except String Bytes := do
  if e.critical then .error "x509: authority key identifier incorrectly marked critical"
  let some (akid, _) := read Tag.sequence e.value | .error "x509: invalid authority key identifier"
  if peek (Tag.context 0) akid then
    match read (Tag.context 0) akid with
    | some (k, _) => pure k
    | none => .error "x509: invalid authority key identifier"
  else pure []

/-- The extended key usages. -/
def readExtKeyUsage (der : Bytes) : Except String (List Oid) := do
  let some (seq, _) := read Tag.sequence der | .error "x509: invalid extended key usages"
  go seq.length seq
where
  go : Nat → Bytes → Except String (List Oid)
    | _, [] => .ok []
    | 0, _ => .error "x509: invalid extended key usages"
    | fuel + 1, s => do
      let some (o, rest) := readOid s | .error "x509: invalid extended key usages"
      (o :: ·) <$> go fuel rest

def oidOcsp : Oid := [1, 3, 6, 1, 5, 5, 7, 48, 1]
def oidCaIssuers : Oid := [1, 3, 6, 1, 5, 5, 7, 48, 2]
def oidAuthorityInfoAccess : Oid := [1, 3, 6, 1, 5, 5, 7, 1, 1]

/-- Authority information access: OCSP responders and issuer certificate URLs. -/
def readAuthorityInfoAccess (e : Extension) : Except String (List String × List String) := do
  if e.critical then .error "x509: authority info access incorrectly marked critical"
  let some (seq, _) := read Tag.sequence e.value | .error "x509: invalid authority info access"
  go seq.length seq
where
  go : Nat → Bytes → Except String (List String × List String)
    | _, [] => .ok ([], [])
    | 0, _ => .error "x509: invalid authority info access"
    | fuel + 1, s => do
      let some (ad, rest) := read Tag.sequence s | .error "x509: invalid authority info access"
      let some (method, ad) := readOid ad | .error "x509: invalid authority info access"
      let (ocsp, issuers) ← go fuel rest
      if !peek (Tag.context 6) ad then pure (ocsp, issuers)
      else
        let some (u, _) := read (Tag.context 6) ad | .error "x509: invalid authority info access"
        if method = oidOcsp then pure (decodeLossy u :: ocsp, issuers)
        else if method = oidCaIssuers then pure (ocsp, decodeLossy u :: issuers)
        else pure (ocsp, issuers)

/-- Alternative names of a subject: DNS names, email addresses and URIs, each in order. -/
structure AltNames where
  dns : List String := []
  emails : List String := []
  uris : List String := []

/-- The subject alternative names. -/
def readSubjectAltNames (der : Bytes) : Except String AltNames := do
  let some (seq, _) := read Tag.sequence der | .error "x509: invalid subject alternative names"
  go seq.length seq
where
  ascii (v : Bytes) : Bool := v.all (· < 0x80)
  go : Nat → Bytes → Except String AltNames
    | _, [] => .ok {}
    | 0, _ => .error "x509: invalid subject alternative name"
    | fuel + 1, s => do
      let some (tag, v, rest) := readAny s | .error "x509: invalid subject alternative name"
      let more ← go fuel rest
      let text := decodeLossy v
      if tag = 0x81 then
        if !ascii v then .error "x509: SAN rfc822Name is malformed"
        pure { more with emails := text :: more.emails }
      else if tag = 0x82 then
        if !ascii v then .error "x509: SAN dNSName is malformed"
        pure { more with dns := text :: more.dns }
      else if tag = 0x86 then
        if !ascii v then .error "x509: SAN uniformResourceIdentifier is malformed"
        match Net.Url.parse text with
        | .error f => .error ("x509: cannot parse URI " ++ quote text ++ ": " ++ f.message)
        | .ok _ => pure { more with uris := text :: more.uris }
      else if tag = 0x87 ∧ v.length ≠ 4 ∧ v.length ≠ 16 then
        .error ("x509: cannot parse IP address of length " ++ toString v.length)
      else pure more

/-- The certificate with one extension's meaning filled in. -/
def Certificate.withExtension (c : Certificate) (e : Extension) : Except String Certificate :=
  match e.id with
  | [2, 5, 29, 15] => do pure { c with keyUsage := ← readKeyUsage e.value }
  | [2, 5, 29, 19] => do
    let (ca, len) ← readBasicConstraints e.value
    pure { c with isCA := ca, maxPathLen := len, basicConstraintsValid := true }
  | [2, 5, 29, 31] => do pure { c with crlDistributionPoints := ← readCrlDistributionPoints e.value }
  | [2, 5, 29, 35] => do pure { c with authorityKeyId := ← readAuthorityKeyId e }
  | [2, 5, 29, 37] => do pure { c with extKeyUsage := ← readExtKeyUsage e.value }
  | [2, 5, 29, 17] => do
    let names ← readSubjectAltNames e.value
    pure { c with dnsNames := names.dns, emailAddresses := names.emails, uris := names.uris }
  | [2, 5, 29, 14] => do
    if e.critical then .error "x509: subject key identifier incorrectly marked critical"
    let some (k, _) := read Tag.octetString e.value | .error "x509: invalid subject key identifier"
    pure { c with subjectKeyId := k }
  | _ =>
    if e.id = oidAuthorityInfoAccess then do
      let (ocsp, issuers) ← readAuthorityInfoAccess e
      pure { c with ocspServers := c.ocspServers ++ ocsp,
                    issuingCertificateUrls := c.issuingCertificateUrls ++ issuers }
    else pure c

/-- Fail with `msg` when the value is `none`. -/
def need {α : Type} (msg : String) : Option α → Except String α
  | some a => .ok a
  | none => .error msg

/-- A time of the validity period. -/
def readValidityTime (s : Bytes) : Except String (Time × Bytes) :=
  (readTime s).mapError fun
    | .utc => "x509: malformed UTCTime"
    | .generalized => "x509: malformed GeneralizedTime"
    | .unsupported => "x509: unsupported time format"

/-- A certificate from the front of its DER encoding, with the bytes after it. -/
def readCertificatePrefix (der : Bytes) : Except String (Certificate × Bytes) := do
  let (raw, after) ← need "x509: malformed certificate" (readElement Tag.sequence der)
  let (input, _) ← need "x509: malformed certificate" (read Tag.sequence raw)
  let (rawTbs, input) ← need "x509: malformed tbs certificate" (readElement Tag.sequence input)
  let (tbs, _) ← need "x509: malformed tbs certificate" (read Tag.sequence rawTbs)
  let (v?, tbs) ← need "x509: malformed version" (readOptional (Tag.explicit 0) tbs)
  let version ← match v? with
    | none => pure 0
    | some vd => match readInt64 vd with
      | some (v, []) => pure v
      | _ => .error "x509: malformed version"
  if version < 0 then .error "x509: malformed version"
  if version + 1 > 3 then .error "x509: invalid version"
  let version := version.toNat + 1
  let (serial, tbs) ← need "x509: malformed serial number" (readInteger tbs)
  let (sigAI, tbs) ← need "x509: malformed signature algorithm identifier" (read Tag.sequence tbs)
  let (outerAI, input) ← need "x509: malformed algorithm identifier" (read Tag.sequence input)
  if outerAI ≠ sigAI then .error "x509: inner and outer signature algorithm identifiers don't match"
  let sigAlg ← readAlgorithmId sigAI
  let (rawIssuer, tbs) ← need "x509: malformed issuer" (readElement Tag.sequence tbs)
  let issuer ← readName rawIssuer
  let (validity, tbs) ← need "x509: malformed validity" (read Tag.sequence tbs)
  let (notBefore, validity) ← readValidityTime validity
  let (notAfter, _) ← readValidityTime validity
  let (rawSubject, tbs) ← need "x509: malformed issuer" (readElement Tag.sequence tbs)
  let subject ← readName rawSubject
  let (rawSpki, tbs) ← need "x509: malformed spki" (readElement Tag.sequence tbs)
  let (spki, _) ← need "x509: malformed spki" (read Tag.sequence rawSpki)
  let (pkAI, spki) ← need "x509: malformed public key algorithm identifier" (read Tag.sequence spki)
  let keyAlg ← readAlgorithmId pkAI
  let (bits, _) ← need "x509: malformed subjectPublicKey" (readBitString spki)
  let publicKey ← if knownKeyAlgorithm keyAlg.algorithm then
      readPublicKey keyAlg.algorithm keyAlg.params bits.bytes else pure none
  let cert : Certificate :=
    { raw := raw, rawTbs := rawTbs, version := version, serial := serial,
      signatureAlgorithm := sigAlg, rawIssuer := rawIssuer, issuer := issuer, notBefore := notBefore,
      notAfter := notAfter, rawSubject := rawSubject, subject := subject, rawSpki := rawSpki,
      keyAlgorithm := keyAlg, keyBits := bits.bytes, publicKey := publicKey, signature := [] }
  let cert ← if version > 1 then do
      let tbs ← need "x509: malformed issuerUniqueID" (skipOptional (Tag.context 1) tbs)
      let tbs ← need "x509: malformed subjectUniqueID" (skipOptional (Tag.context 2) tbs)
      if version = 3 then do
        let (exts?, _) ← need "x509: malformed extensions" (readOptional (Tag.explicit 3) tbs)
        match exts? with
        | none => pure cert
        | some extsDer => do
          let (seq, _) ← need "x509: malformed extensions" (read Tag.sequence extsDer)
          let exts ← readExtensions seq
          exts.foldlM Certificate.withExtension { cert with extensions := exts }
      else pure cert
    else pure cert
  let (sig, _) ← need "x509: malformed signature" (readBitString input)
  pure ({ cert with signature := sig.bytes }, after)

/-- A certificate from its DER encoding, with nothing after it. -/
def readCertificate (der : Bytes) : Except String Certificate := do
  let (c, after) ← readCertificatePrefix der
  if !after.isEmpty then .error "x509: trailing data"
  pure c

/-- The certificates of a concatenation of DER encodings. -/
def readCertificates (der : Bytes) : Except String (List Certificate) :=
  go der.length der
where
  go : Nat → Bytes → Except String (List Certificate)
    | _, [] => .ok []
    | 0, _ => .ok []
    | fuel + 1, s => do
      let (c, rest) ← readCertificatePrefix s
      (c :: ·) <$> go fuel rest

/-- The RSA public key of a certificate. -/
def Certificate.rsaKey (c : Certificate) : Option (Nat × Nat) :=
  match c.publicKey with
  | some (.rsa n e) => some (n, e)
  | _ => none

end EInvoice.Pki
