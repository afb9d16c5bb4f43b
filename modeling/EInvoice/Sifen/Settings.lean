import EInvoice.Transport.Exchange
import EInvoice.Assembly.Qr

/-!
# Client settings

What a client is made with: the base URL of the authority, the path of each service under it,
how exchanges are made (timeouts and user agent), the largest lot it assembles and, when QR
links are made, the security code they use.

Each service has a published path; a path left empty takes it.
-/

namespace EInvoice.Sifen

open EInvoice.Assembly

/-- The base URL of the test environment. -/
def baseUrlTest : String := "https://" ++ Transport.testHost

/-- The base URL of production. -/
def baseUrlProduction : String := "https://" ++ Transport.productionHost

/-- The path of each service under the base URL. -/
structure Paths where
  ruc : String
  document : String
  lot : String
  lotQuery : String
  documentQuery : String
  deriving Repr, DecidableEq

/-- The published paths. -/
def defaultPaths : Paths :=
  ⟨"/de/ws/consultas/consulta-ruc.wsdl", "/de/ws/sync/recibe.wsdl", "/de/ws/async/recibe-lote.wsdl",
   "/de/ws/consultas/consulta-lote.wsdl", "/de/ws/consultas/consulta.wsdl"⟩

/-- A text, or a default when it is empty. -/
def orDefault (s d : String) : String := if s.isEmpty then d else s

/-- Paths with each empty one replaced by the published one. -/
def Paths.withDefaults (p : Paths) : Paths :=
  ⟨orDefault p.ruc defaultPaths.ruc, orDefault p.document defaultPaths.document,
   orDefault p.lot defaultPaths.lot, orDefault p.lotQuery defaultPaths.lotQuery,
   orDefault p.documentQuery defaultPaths.documentQuery⟩

/-- How exchanges are made: timeouts in nanoseconds and the user agent sent. -/
structure Exchange where
  connectTimeout : Int
  readTimeout : Int
  userAgent : String
  deriving Repr, DecidableEq

/-- Fifteen seconds to connect, forty-five to read. -/
def defaultExchange : Exchange := ⟨15000000000, 45000000000, Transport.defaultUserAgent⟩

/-- What a client is made with. -/
structure ClientSettings where
  baseUrl : String
  paths : Paths
  exchange : Exchange
  maxLot : Int
  qr : Option QrSettings
  deriving Repr

theorem withDefaults_empty : (Paths.mk "" "" "" "" "").withDefaults = defaultPaths := by
  simp [Paths.withDefaults, orDefault, defaultPaths]

end EInvoice.Sifen
