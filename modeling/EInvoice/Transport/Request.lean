import EInvoice.Transport.Route

/-!
# Requests

A request to the service is its target URL, the target's route and the text of the SOAP
envelope, built in the route's dialect around the payload (`prepare`).

Before a request is sent it must carry text, and an `https` target needs a TLS context
(`checkSendable`).
-/

namespace EInvoice.Transport

open EInvoice.Soap EInvoice.Net EInvoice.Text

/-- A request ready to be sent. -/
structure Request where
  url : String
  route : Route
  payload : String
  deriving Repr

/-- Why a request cannot be made or sent. -/
inductive ExchangeError where
  /-- the target is refused -/
  | target (e : TargetError)
  /-- the envelope cannot be built -/
  | build (e : BuildError)
  /-- the request carries no text -/
  | empty
  /-- an `https` target without a TLS context -/
  | needsTls
  /-- the exchange failed on the wire -/
  | io (detail : String)
  deriving Repr

instance : Reportable ExchangeError where
  message
    | .target e => Reportable.message e
    | .build e => "messaging error: " ++ Reportable.message e
    | .empty => "messaging error: empty request"
    | .needsTls => "invalid target: https requires a TLS context"
    | .io d => "transport I/O failure: " ++ d
  kinds
    | .target _ | .needsTls => [.invalidTarget]
    | .build _ | .empty => [.messaging]
    | .io _ => [.transportIO]

/-- The request for a payload sent to a target. -/
def prepare (target : String) (body : Option Payload) : Except ExchangeError Request := do
  let route ← (resolve target).mapError .target
  let payload ← (buildEnvelope route.version body).mapError .build
  pure ⟨target, route, payload⟩

/-- The request for a text already built, sent to a target. -/
def prepareText (target payload : String) : Except ExchangeError Request := do
  let route ← (resolve target).mapError .target
  pure ⟨target, route, payload⟩

/-- Whether a request can be sent with or without a TLS context: it carries text and its
target is a URL that a TLS context is there for when it is `https`. -/
def checkSendable (tls : Bool) (r : Request) : Except ExchangeError Url := do
  if r.payload.isEmpty then .error .empty
  let u ← (parseTarget r.url).mapError .target
  if decodeLossy u.scheme = "https" ∧ !tls then .error .needsTls
  pure u

end EInvoice.Transport
