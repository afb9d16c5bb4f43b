import EInvoice.Transport.Request
import EInvoice.Net.Http
import EInvoice.Log.Record

/-!
# Exchanges

A request is sent as an HTTP `POST` of its envelope to its target, with the headers its route
asks for: the content type, what is accepted, the user agent, the SOAP action when the route
sends one, and `Connection: keep-alive` when the route keeps connections open. A route that
closes connections asks for the connection to be closed. The body has a fixed length.

Whatever status comes back, the whole body is read: a fault travels in the body of an error
status. An exchange fails when the request cannot be sent (`checkSendable`), when no response
arrives, or when the body cannot be read to its end.

Two debug records are written on the way: one when the request leaves, one when its response
has been read.
-/

namespace EInvoice.Transport

open EInvoice.Net EInvoice.Text EInvoice.Log

/-- The user agent sent when none is set. -/
def defaultUserAgent : String := "go-sifen/1.0"

/-- How requests are exchanged: whether a TLS context is there for `https` targets, and the
user agent sent. -/
structure Exchanging where
  tls : Bool := true
  userAgent : String := defaultUserAgent
  deriving Repr, DecidableEq

/-- What came back from an exchange: the status, the body and its content type. -/
structure Response where
  status : Nat
  raw : Bytes
  contentType : String
  deriving Repr, DecidableEq

/-- The headers of a request, in the order they are set. -/
def Request.headers (x : Exchanging) (r : Request) : List (String × String) :=
  [("Content-Type", r.route.contentType), ("Accept", r.route.accept), ("User-Agent", x.userAgent)] ++
  (if r.route.sendSoapAction then [("SOAPAction", r.route.soapAction)] else []) ++
  (if r.route.keepAlive then [("Connection", "keep-alive")] else [])

/-- The HTTP request that carries a request to its parsed target. -/
def Request.toHttp (x : Exchanging) (r : Request) (u : Url) : HttpRequest :=
  HttpRequest.ofUrl "POST" u (r.headers x) (encode r.payload) r.route.close

/-- The record written when a request leaves. -/
def sendingRecord (r : Request) : Record :=
  ⟨.debug, "sending SOAP request", [("url", .text r.url), ("route", .text r.route.name),
    ("soap", .text r.route.version.name), ("bytes", .int (encode r.payload).length)]⟩

/-- The record written when a response has been read. -/
def receivedRecord (r : Request) (res : Response) : Record :=
  ⟨.debug, "received SOAP response", [("url", .text r.url), ("status", .int res.status),
    ("bytes", .int res.raw.length)]⟩

/-- Send a request and read its response, with the records written on the way. -/
def exchange (x : Exchanging) (r : Request) : Net (List Record × Except ExchangeError Response) := do
  match checkSendable x.tls r with
  | .error e => pure ([], .error e)
  | .ok u =>
    let sending := sendingRecord r
    match ← send (r.toHttp x u) with
    | .error f => pure ([sending], .error (.io f.message))
    | .ok res =>
      match res.read with
      | .error cause => pure ([sending], .error (.io ("reading response: " ++ cause)))
      | .ok raw =>
        let out : Response := ⟨res.status, raw, res.contentType⟩
        pure ([sending, receivedRecord r out], .ok out)

/-- Send a text to a target, on the route the target resolves to. -/
def exchangeText (x : Exchanging) (target payload : String) :
    Net (List Record × Except ExchangeError Response) :=
  match prepareText target payload with
  | .error e => pure ([], .error e)
  | .ok r => exchange x r

theorem exchange_empty (x : Exchanging) (url : String) (route : Route) :
    exchange x ⟨url, route, ""⟩ = pure ([], .error .empty) := by
  rfl

end EInvoice.Transport
