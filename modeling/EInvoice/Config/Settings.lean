import EInvoice.Yaml.Decode
import EInvoice.Config.Environment
import EInvoice.Sifen.Settings
import EInvoice.Log.Level
import EInvoice.Keystore.Bundle
import EInvoice.Transport.Tls
import EInvoice.Invoice.Lot
import EInvoice.Security.Validator

/-!
# Configuration

A client is configured from a YAML text, after its environment variables are expanded. The
sections are:

* `environment`: `test` (the default) or `prod`, which selects the base URL;
* `urls`: the base URL of each environment (`test`, `prod`);
* `paths`: the path of each service (`ruc`, `document`, `lot`, `lot_query`,
  `document_query`);
* `http`: `connectTimeout`, `readTimeout` (durations) and `userAgent`;
* `credential`: `format` (`pkcs12`, the default, `pem` or `pkcs11`), `path`, `keyPath`,
  `password`, the token settings `pkcs11` (`modulePath`, `slotId`, `slotLabel`, `pin`,
  `keyLabel`) and `validation` (`chain`, `roots`, `authzen`, `ocsp`, `strict`);
* `tls`: `clientCertificate` and `rootCAs`;
* `lot`: `maxDocuments`;
* `qr`: `cscId`, `csc` and `baseUrl`;
* `log`: `level`; `metrics`: `enabled`, `address` and `path`.

Empty settings take their defaults; then the whole is checked, section by section, and the
first fault found is reported.
-/

namespace EInvoice.Config

open EInvoice.Yaml EInvoice.Sifen EInvoice.Assembly EInvoice.Keystore EInvoice.Transport
open EInvoice.Pki EInvoice.Text EInvoice.Net EInvoice.Invoice

/-- The base URL of each environment. -/
structure Urls where
  test : String
  production : String
  deriving Repr

/-- Where a key on a token is found. -/
structure TokenSettings where
  modulePath : String
  slotId : Option Nat
  slotLabel : String
  pin : String
  keyLabel : String
  deriving Repr

/-- How the signing certificate is checked before use. -/
structure Validation where
  chain : Bool
  roots : Option (List String)
  authzen : String
  ocsp : Bool
  strict : Bool
  deriving Repr

/-- The signing credential and how it is checked. -/
structure CredentialSettings where
  format : String
  path : String
  keyPath : String
  password : String
  token : TokenSettings
  validation : Validation
  deriving Repr

/-- Client TLS: whether the credential is presented, and extra trust anchors. -/
structure TlsSettings where
  clientCertificate : Bool
  rootCAs : Option (List String)
  deriving Repr

/-- Where metrics are served. -/
structure MetricsSettings where
  enabled : Bool
  address : String
  path : String
  deriving Repr

/-- A configuration. -/
structure Settings where
  environment : String
  urls : Urls
  paths : Paths
  exchange : Exchange
  credential : CredentialSettings
  tls : TlsSettings
  maxDocuments : Int
  qr : QrSettings
  logLevel : String
  metrics : MetricsSettings
  deriving Repr

/-- The shape of a configuration text, with the names its types have in messages. -/
def settingsSchema : Schema :=
  .record "config.Config" [
    ("environment", .text),
    ("urls", .record "config.URLConfig" [("test", .text), ("prod", .text)]),
    ("paths", .record "sifen.Paths" [("ruc", .text), ("document", .text), ("lot", .text),
      ("lot_query", .text), ("document_query", .text)]),
    ("http", .record "config.HTTPConfig" [("connectTimeout", .duration), ("readTimeout", .duration),
      ("userAgent", .text)]),
    ("credential", .record "config.CredentialConfig" [("format", .text), ("path", .text),
      ("keyPath", .text), ("password", .text),
      ("pkcs11", .record "config.PKCS11Config" [("modulePath", .text), ("slotId", .count),
        ("slotLabel", .text), ("pin", .text), ("keyLabel", .text)]),
      ("validation", .record "config.ValidationConfig" [("chain", .flag), ("roots", .texts),
        ("authzen", .text), ("ocsp", .flag), ("strict", .flag)])]),
    ("tls", .record "config.TLSConfig" [("clientCertificate", .flag), ("rootCAs", .texts)]),
    ("lot", .record "config.LotConfig" [("maxDocuments", .integer)]),
    ("qr", .record "config.QRConfig" [("cscId", .text), ("csc", .text), ("baseUrl", .text)]),
    ("log", .record "config.LogConfig" [("level", .text)]),
    ("metrics", .record "config.MetricsConfig" [("enabled", .flag), ("address", .text),
      ("path", .text)])]

/-- The configuration a decoded value holds. -/
def Settings.ofValue (v : Value) : Settings :=
  let sub (k : String) := v.field k
  let urls := sub "urls"
  let paths := sub "paths"
  let http := sub "http"
  let cred := sub "credential"
  let token := cred.field "pkcs11"
  let val := cred.field "validation"
  let tls := sub "tls"
  let qr := sub "qr"
  let metrics := sub "metrics"
  { environment := (sub "environment").asText
    urls := ⟨(urls.field "test").asText, (urls.field "prod").asText⟩
    paths := ⟨(paths.field "ruc").asText, (paths.field "document").asText, (paths.field "lot").asText,
      (paths.field "lot_query").asText, (paths.field "document_query").asText⟩
    exchange := ⟨(http.field "connectTimeout").asInt, (http.field "readTimeout").asInt,
      (http.field "userAgent").asText⟩
    credential := ⟨(cred.field "format").asText, (cred.field "path").asText,
      (cred.field "keyPath").asText, (cred.field "password").asText,
      ⟨(token.field "modulePath").asText, (token.field "slotId").asCount,
        (token.field "slotLabel").asText, (token.field "pin").asText, (token.field "keyLabel").asText⟩,
      ⟨(val.field "chain").asFlag, (val.field "roots").asTexts, (val.field "authzen").asText,
        (val.field "ocsp").asFlag, (val.field "strict").asFlag⟩⟩
    tls := ⟨(tls.field "clientCertificate").asFlag, (tls.field "rootCAs").asTexts⟩
    maxDocuments := ((sub "lot").field "maxDocuments").asInt
    qr := ⟨(qr.field "cscId").asText, (qr.field "csc").asText, (qr.field "baseUrl").asText⟩
    logLevel := ((sub "log").field "level").asText
    metrics := ⟨(metrics.field "enabled").asFlag, (metrics.field "address").asText,
      (metrics.field "path").asText⟩ }

/-- An integer, or a default when it is zero. -/
def orDefaultInt (v d : Int) : Int := if v = 0 then d else v

/-- A configuration with its empty settings given their defaults. -/
def Settings.withDefaults (s : Settings) : Settings :=
  let environment := orDefault s.environment "test"
  { s with
    environment
    urls := ⟨orDefault s.urls.test baseUrlTest, orDefault s.urls.production baseUrlProduction⟩
    paths := s.paths.withDefaults
    exchange := ⟨orDefaultInt s.exchange.connectTimeout defaultExchange.connectTimeout,
      orDefaultInt s.exchange.readTimeout defaultExchange.readTimeout,
      orDefault s.exchange.userAgent defaultExchange.userAgent⟩
    credential := { s.credential with format := orDefault s.credential.format "pkcs12" }
    maxDocuments := orDefaultInt s.maxDocuments maxLotDocuments
    qr := { s.qr with
      baseUrl := orDefault s.qr.baseUrl (if environment = "prod" then qrBaseProduction else qrBaseTest) }
    logLevel := orDefault s.logLevel "info"
    metrics := { s.metrics with
      address := orDefault s.metrics.address ":9090", path := orDefault s.metrics.path "/metrics" } }

/-- The base URL of the configured environment. -/
def Settings.baseUrl (s : Settings) : String :=
  if s.environment = "prod" then s.urls.production else s.urls.test

/-- Why a configuration is refused. -/
inductive ConfigError where
  | reading (detail : String)
  | parsing (detail : String)
  | invalid (detail : String)
  | target (environment : String) (e : TargetError)
  deriving Repr

instance : Reportable ConfigError where
  message
    | .reading d => "reading config file: " ++ d
    | .parsing d => "parsing config file: " ++ d
    | .invalid d => "validating config: " ++ d
    | .target env e => "validating config: urls." ++ env ++ ": " ++ Reportable.message e
  kinds
    | .target _ e => Reportable.kinds e
    | _ => []

/-- Whether a URL can be a decision point: an `http` or `https` URL with a host. -/
def checkEndpoint (url : String) : Except String Unit :=
  match Url.parse url with
  | .error f => .error ("invalid URL: " ++ f.message)
  | .ok u =>
    let scheme := decodeLossy u.scheme
    if scheme ≠ "http" ∧ scheme ≠ "https" then .error ("URL must use http or https scheme, got " ++ scheme)
    else if u.host.isEmpty then .error "URL must include a host"
    else .ok ()

/-- The faults of the validation settings, in the order they are looked for. -/
def Validation.check (v : Validation) : Except String Unit := do
  if v.chain && !v.authzen.isEmpty then throw "chain and authzen are mutually exclusive"
  if !(v.roots.getD []).isEmpty && !v.chain then throw "roots require chain"
  if v.strict && !v.ocsp then throw "strict requires ocsp"
  if !v.authzen.isEmpty then (checkEndpoint v.authzen).mapError ("authzen: " ++ ·)

/-- The first fault of the credential settings. -/
def CredentialSettings.check (c : CredentialSettings) : Except String Unit :=
  if c.format = "pkcs12" then
    if c.path.isEmpty then .error "credential.path is required when format is 'pkcs12'" else .ok ()
  else if c.format = "pem" then
    if c.path.isEmpty || c.keyPath.isEmpty then
      .error "credential.path and credential.keyPath are required when format is 'pem'"
    else .ok ()
  else if c.format = "pkcs11" then
    if c.token.modulePath.isEmpty then .error "credential.pkcs11.modulePath is required when format is 'pkcs11'"
    else if c.token.keyLabel.isEmpty then .error "credential.pkcs11.keyLabel is required when format is 'pkcs11'"
    else .ok ()
  else .error ("credential.format must be 'pkcs12', 'pem', or 'pkcs11', got '" ++ c.format ++ "'")

/-- The first fault of a configuration with its defaults. -/
def Settings.check (s : Settings) : Except ConfigError Unit := do
  let invalid := fun (d : String) => ConfigError.invalid d
  if s.environment ≠ "test" ∧ s.environment ≠ "prod" then
    throw (invalid ("environment must be 'test' or 'prod', got '" ++ s.environment ++ "'"))
  if let .error e := Transport.resolve s.baseUrl then throw (.target s.environment e)
  if s.exchange.connectTimeout < 0 || s.exchange.readTimeout < 0 then
    throw (invalid "http timeouts must not be negative")
  s.credential.check.mapError invalid
  s.credential.validation.check.mapError fun d => invalid ("credential.validation: " ++ d)
  if s.maxDocuments < 1 || s.maxDocuments > maxLotDocuments then
    throw (invalid ("lot.maxDocuments must be between 1 and " ++ toString maxLotDocuments))
  if !s.qr.csc.isEmpty && s.qr.cscId.isEmpty then throw (invalid "qr.cscId is required when qr.csc is set")
  if let .error e := Log.parseLevel s.logLevel then throw (invalid ("log.level: " ++ e.message))

/-- The sentence of YAML type errors. -/
def typeErrorsMessage (errors : List String) : String :=
  "yaml: unmarshal errors:\n  " ++ "\n  ".intercalate errors

/-- The configuration of a text, read with an environment. -/
def parseSettings (env : Environment) (text : String) : Except ConfigError Settings := do
  let expanded := expand env text
  let doc ← (compose expanded).mapError fun f => .parsing f.message
  let fuel := 8 * Nat.pow (expanded.length + 2) 2
  let (errors, v) ← (decodeDocument doc settingsSchema settingsSchema.zero fuel).mapError .parsing
  if !errors.isEmpty then throw (.parsing (typeErrorsMessage errors))
  let s := (Settings.ofValue v).withDefaults
  s.check
  pure s

/-- The configuration in a file. -/
def loadSettings (env : Environment) (fs : Files) (path : String) : Except ConfigError Settings :=
  match fs.read path with
  | .ok bytes => parseSettings env (decodeLossy bytes)
  | .error .missing => .error (.reading ("open " ++ path ++ ": no such file or directory"))
  | .error .directory => .error (.reading ("read " ++ path ++ ": is a directory"))
  | .error .notDirectory => .error (.reading ("open " ++ path ++ ": not a directory"))

/-- Where the configured credential is read from, with its token settings. -/
def Settings.source (s : Settings) : Source :=
  ⟨s.credential.format, s.credential.path, s.credential.keyPath, s.credential.password⟩

/-- How the signing certificate is checked: its validity period only, its chain up to trust
anchors (the system's when none are given), the verdict of a decision point, or one of these
followed by a revocation check. -/
inductive CertificateCheck where
  | period
  | chain (roots : Option (List Certificate))
  | decisionPoint (endpoint : String) (timeout : Int)
  | revocation (base : CertificateCheck) (strict : Bool)
  deriving Repr

/-- The name of a check as it is reported. -/
def CertificateCheck.name : CertificateCheck → String
  | .period => "none"
  | .chain _ => "chain"
  | .decisionPoint .. => "authzen"
  | .revocation .. => "revocation"

/-- The certificate check a configuration asks for; with no check asked for, none is
returned and the validity period alone is checked. -/
def Settings.certificateCheck (s : Settings) (fs : Files) : Except Report (Option CertificateCheck) := do
  let v := s.credential.validation
  let base ← if v.chain then do
      let roots ← match v.roots with
        | some (r :: rs) =>
          ((loadRoots fs (r :: rs)).map some).mapError fun e =>
            Report.prefixed "credential.validation.roots: " (Report.of e)
        | _ => pure none
      pure (some (CertificateCheck.chain roots))
    else if !v.authzen.isEmpty then pure (some (.decisionPoint v.authzen s.exchange.readTimeout))
    else pure none
  if !v.ocsp then return base
  pure (some (.revocation (base.getD .period) v.strict))

/-- The validator a certificate check makes at an instant: chains are verified by `verify` with
the check's roots (none for the system's), a decision point is asked about signing, and
revocation is asked of OCSP, then of the revocation lists, failing only when strict. -/
def CertificateCheck.validator (verify : Option (List Certificate) → Security.ChainVerifier)
    (now : Clock.Time) : CertificateCheck → Security.Validator
  | .period => .validity now
  | .chain roots => .chain now (verify roots)
  | .decisionPoint endpoint _ => .trust { endpoint }
  | .revocation base strict => .revocation (base.validator verify now) (some ⟨true, strict⟩)

/-- The validator a configuration makes; the validity period alone when it asks for no check. -/
def Settings.validator (s : Settings) (fs : Files)
    (verify : Option (List Certificate) → Security.ChainVerifier) (now : Clock.Time) :
    Except Report Security.Validator :=
  (fun c => (c.getD .period).validator verify now) <$> s.certificateCheck fs

/-- The TLS context of a configuration for a credential, presented only when the
configuration says so. -/
def Settings.clientTls (s : Settings) (fs : Files) (b : Option Bundle) : Except Report TlsContext := do
  let b := if s.tls.clientCertificate then b else none
  match s.tls.rootCAs with
  | some (r :: rs) =>
    let roots ← (loadRoots fs (r :: rs)).mapError fun e => Report.prefixed "tls.rootCAs: " (Report.of e)
    pure (Transport.tlsContext b (some roots))
  | _ => pure (Transport.tlsContext b none)

/-- The client settings of a configuration; QR links are made when a CSC is set. -/
def Settings.clientSettings (s : Settings) : ClientSettings :=
  ⟨s.baseUrl, s.paths, s.exchange, s.maxDocuments, if s.qr.csc.isEmpty then none else some s.qr⟩

theorem checkEndpoint_ok_needs_host (url : String) (h : checkEndpoint url = .ok ()) :
    ∃ u, Url.parse url = .ok u ∧ u.host ≠ [] := by
  unfold checkEndpoint at h
  split at h
  · simp at h
  · rename_i u hu
    refine ⟨u, hu, ?_⟩
    intro hh
    simp [hh] at h
    split at h <;> simp_all

end EInvoice.Config
