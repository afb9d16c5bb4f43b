import EInvoice.Net.Url
import EInvoice.Soap.Envelope
import EInvoice.Text.Case

/-!
# Routes

Each target of the e-invoicing service is reached with its own wire treatment: SOAP
dialect, content type, accepted types, whether a `SOAPAction` header is sent (it may then be
empty), and whether the connection is kept alive or closed. The treatment is found by
looking, case-insensitively, for a marker in the target URL; the rows of the table are
tried in order and the first that matches wins, some only in one environment:

| marker               | environment | route           |
|----------------------|-------------|-----------------|
| `consulta-ruc`       | test        | `ruc-test`      |
| `consulta-ruc`       | any         | `ruc`           |
| `/async/recibe-lote` | any         | `lot-reception` |
| `consulta-lote`      | any         | `lot-query`     |
| otherwise            |             | `default`       |

The environment of a target is read from its host: `sifen-test.set.gov.py` is the test
environment, `sifen.set.gov.py` production, any other host unknown.

A target must be an `http` or `https` URL with a host.
-/

namespace EInvoice.Transport

open EInvoice.Net EInvoice.Soap EInvoice.Text

/-- The environment a target belongs to. -/
inductive Environment where
  | unknown
  | test
  | production
  deriving DecidableEq, Repr, Inhabited

/-- The name of an environment. -/
def Environment.name : Environment → String
  | .test => "test"
  | .production => "prod"
  | .unknown => "unknown"

/-- The host of the test environment. -/
def testHost : String := "sifen-test.set.gov.py"
/-- The host of production. -/
def productionHost : String := "sifen.set.gov.py"

/-- The environment of a host name. -/
def environmentOf (host : String) : Environment :=
  let h := lowerText host
  if h = testHost then .test else if h = productionHost then .production else .unknown

/-- The wire treatment of a target. -/
structure Route where
  name : String
  version : Version
  contentType : String
  accept : String
  soapAction : String := ""
  sendSoapAction : Bool := false
  keepAlive : Bool := false
  close : Bool := false
  deriving Repr, DecidableEq

/-- Plain XML content. -/
def contentTypeXml : String := "application/xml; charset=utf-8"
/-- SOAP 1.2 content. -/
def contentTypeSoap12 : String := "application/soap+xml; charset=utf-8"
/-- What a SOAP client accepts. -/
def acceptSoap : String := "application/soap+xml, text/xml, */*"
/-- What a browser accepts. -/
def acceptBrowser : String := "text/html, image/gif, image/jpeg, */*; q=0.2"

/-- SOAP 1.2 content with an action parameter. -/
def soap12Action (action : String) : String := contentTypeSoap12 ++ "; action=" ++ quote action

/-- One row of the route table: a marker, the environment it is limited to (`unknown` for
any), and the route. -/
structure RouteRule where
  marker : String
  env : Environment
  route : Route

/-- Taxpayer lookups in the test environment: SOAP 1.1 as plain XML, as a browser asks, on a
connection kept alive. -/
def rucTestRoute : Route :=
  { name := "ruc-test", version := .soap11, contentType := contentTypeXml, accept := acceptBrowser,
    keepAlive := true }

/-- Taxpayer lookups elsewhere: SOAP 1.2 with the action `siConsRUC`, also sent as `SOAPAction`. -/
def rucRoute : Route :=
  { name := "ruc", version := .soap12, contentType := soap12Action "siConsRUC", accept := acceptSoap,
    soapAction := "siConsRUC", sendSoapAction := true }

/-- The reception of lots: SOAP 1.2 with the action `siRecepLoteDE`. -/
def lotReceptionRoute : Route :=
  { name := "lot-reception", version := .soap12, contentType := soap12Action "siRecepLoteDE",
    accept := acceptSoap }

/-- Lot queries: SOAP 1.2 with the action `siConsLoteDE`, an empty `SOAPAction`, and the
connection closed afterwards. -/
def lotQueryRoute : Route :=
  { name := "lot-query", version := .soap12, contentType := soap12Action "siConsLoteDE",
    accept := acceptSoap, sendSoapAction := true, close := true }

/-- The route table, tried in order. -/
def routeTable : List RouteRule := [
  ⟨"consulta-ruc", .test, rucTestRoute⟩,
  ⟨"consulta-ruc", .unknown, rucRoute⟩,
  ⟨"/async/recibe-lote", .unknown, lotReceptionRoute⟩,
  ⟨"consulta-lote", .unknown, lotQueryRoute⟩]

/-- The route when no row matches. -/
def defaultRoute : Route :=
  { name := "default", version := .soap12, contentType := contentTypeSoap12, accept := acceptSoap }

/-- Whether `pat` occurs in `s`. -/
def contains (s pat : String) : Bool := s.contains pat

/-- The route of a target in an environment. -/
def lookup (target : String) (env : Environment) : Route :=
  let t := lowerText target
  match routeTable.find? (fun r => (r.env = .unknown ∨ r.env = env) ∧ contains t r.marker) with
  | some r => r.route
  | none => defaultRoute

/-- Why a target is refused. -/
inductive TargetError where
  | url (f : UrlFailure)
  | scheme (s : String)
  | noHost (target : String)
  deriving Repr

instance : Reportable TargetError where
  message
    | .url f => "invalid target: " ++ f.message
    | .scheme s => "invalid target: protocol " ++ quote s ++ " is not allowed"
    | .noHost t => "invalid target: missing host in " ++ quote t
  kinds _ := [.invalidTarget]

/-- A target read as an `http` or `https` URL with a host. -/
def parseTarget (target : String) : Except TargetError Url := do
  let u ← (Url.parse target).mapError TargetError.url
  let scheme := decodeLossy u.scheme
  if scheme ≠ "http" ∧ scheme ≠ "https" then .error (.scheme scheme)
  if u.host.isEmpty then .error (.noHost target)
  pure u

/-- The route of a target, its environment read from its host. -/
def resolve (target : String) : Except TargetError Route := do
  let u ← parseTarget target
  pure (lookup target (environmentOf (decodeLossy u.hostname)))

theorem lookup_default (target : String) (env : Environment)
    (h : ∀ r ∈ routeTable, ¬ contains (lowerText target) r.marker) :
    lookup target env = defaultRoute := by
  unfold lookup
  dsimp only
  rw [List.find?_eq_none.mpr]
  intro r hr hc
  simp only [decide_eq_true_eq] at hc
  exact h r hr hc.2

end EInvoice.Transport
