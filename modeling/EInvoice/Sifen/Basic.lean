import EInvoice.Sifen.Lifecycle
import EInvoice.Sifen.Settings
import EInvoice.Transport.Exchange
import EInvoice.Assembly.Assembler
import EInvoice.Archive.Lot
import EInvoice.Invoice.Identifier

/-!
# The client

A client calls the five services of the authority: the taxpayer lookup, the reception of one
document, the reception of a lot, and the queries of a lot and of a document. It holds the
base URL (trailing slashes removed), the path of each service, the assembler it signs with
when it has a signer, and its clock.

Every call is given the dId of its request and an identifier of its own, and runs the same way
(`Client.run`):

1. its arguments are checked, its document signed or its lot assembled and encoded;
2. the request is built for the service's URL (event *request-built*, with its size);
3. it is sent (event *request-sent*) through the `Exchanger`;
4. the response is read as an envelope (event *response-received*);
5. the result is read from the envelope: the call is *completed* when the authority's result
   code is there, and *rejected* otherwise (event *parse-result*).

A stage that goes wrong ends the call with a `RequestError` and the event *request-failed*.
A result that is there but cannot be decoded is logged as a warning and leaves the call
without a code.

A call can also stop the program instead of returning (`Halt`): when the totals of its document
leave the decimal library's exponent range, and when its exchanger answers neither a request nor
an error when it prepares, or neither a response nor an error when it sends. What the call
noted before it stopped stays noted (`CallM`).

A document is sealed as soon as it is signed, so it stays signed when a later stage fails.
-/

namespace EInvoice.Sifen

open EInvoice.Clock EInvoice.Log EInvoice.Soap EInvoice.Text EInvoice.Transport
open EInvoice.Assembly EInvoice.Invoice EInvoice.Security EInvoice.Xml

/-- Something that prepares a request for a target and a body, and carries a request to the
service and back with the log records it writes on the way. Each can fail with an error, and each
can also answer nothing without an error. -/
structure Exchanger (m : Type → Type) where
  prepare : String → Payload → m (Except Report (Option Request))
  send : Request → m (List Record × Except Report (Option Response))

/-- The exchanger of the transport: it builds the request on the target's route and sends it, and
always answers something. -/
def Exchanger.ofTransport (x : Exchanging) : Exchanger Net.Net where
  prepare target body := pure (((Transport.prepare target (some body)).mapError Report.of).map some)
  send r := do
    let (records, sent) ← exchange x r
    pure (records, (sent.mapError Report.of).map some)

/-- Why a call stops the program instead of returning: the totals of a document leave the decimal
library's exponent range, or the exchanger answered nothing without an error, when preparing or
when sending. -/
inductive Halt where
  | overflow (o : Decimal.Overflow)
  | noRequest
  | noResponse
  deriving Repr

/-- What the program stops with. -/
def Halt.message : Halt → String
  | .overflow o => o.message
  | .noRequest | .noResponse => "runtime error: invalid memory address or nil pointer dereference"

/-- Why a client cannot be made. -/
inductive ClientError where
  | noBaseUrl
  | target (e : TargetError)
  deriving Repr

instance : Reportable ClientError where
  message
    | .noBaseUrl => "invalid target: base URL is required"
    | .target e => Reportable.message e
  kinds _ := [.invalidTarget]

/-- Why the arguments of a call are refused. -/
inductive ArgumentError where
  | ruc (ruc : String)
  | lotNumber (number : String)
  | identifier (cdc : String)
  deriving Repr

instance : Reportable ArgumentError where
  message
    | .ruc r => "invalid document fields: RUC " ++ quote r
    | .lotNumber n => "invalid document fields: lot number " ++ quote n
    | .identifier c => "identifier checksum mismatch: " ++ quote c
  kinds
    | .identifier _ => [.checksumMismatch]
    | _ => [.invalidFields]

/-- A client of the service. -/
structure Client where
  baseUrl : String
  paths : Paths
  assembler : Option Assembler
  now : Time

/-- A text without its trailing slashes. -/
def trimSlashes (s : String) : String :=
  String.ofList (s.toList.reverse.dropWhile (· = '/')).reverse

/-- Make a client from its settings, with a signer or without, and a clock. The base URL must
be left after its trailing slashes are removed, and must be a target. -/
def Client.new (s : ClientSettings) (signer : Option Signer) (now : Time) :
    Except ClientError Client := do
  let base := trimSlashes s.baseUrl
  if base.isEmpty then .error .noBaseUrl
  let _ ← (resolve base).mapError ClientError.target
  let assembler := signer.map fun sg =>
    let a : Assembler := { signer := some sg, qr := s.qr, now := now }
    if s.maxLot > 0 then a.withMaxLot s.maxLot else a
  pure ⟨base, s.paths.withDefaults, assembler, now⟩

/-- The URL of a path under the base URL. -/
def Client.url (c : Client) (path : String) : String := c.baseUrl ++ path

/-- Whether a text is not empty and holds only the digits 0 to 9. -/
def isDigits (s : String) : Bool := !s.isEmpty && s.all fun c => '0' ≤ c && c ≤ '9'

/-- Whether a text is a RUC without its check digit: one to eight digits. -/
def isRuc (s : String) : Bool := s.utf8ByteSize ≤ 8 && isDigits s

/-- Computations of a call: they keep what the call leaves, and can stop the program, keeping
what was left before. -/
abbrev CallM (m : Type → Type) := ExceptT Halt (StateT (List Note) m)

/-- Keep a note. -/
def note [Monad m] (n : Note) : CallM m Unit := modify (· ++ [n])

/-- Run a computation of the exchanger within a call. -/
def CallM.lift [Monad m] (x : m α) : CallM m α := ExceptT.lift (StateT.lift x)

/-- Stop the program. -/
def halt [Monad m] (h : Halt) : CallM m α := throw h

/-- The attribute of the client's own records. -/
def component : String × Value := ("component", .text "sifen")

/-- A call in progress: its operation, URL, dId and identifier, and its route once the request
is built. -/
structure Call where
  operation : Operation
  url : String
  did : String
  requestId : String
  route : String := ""

/-- An event of a call at the client's time. -/
def Call.event (c : Call) (now : Time) (k : EventKind) (s : Stage) : Event :=
  { kind := k, time := now, requestId := c.requestId, operation := c.operation, url := c.url,
    route := c.route, state := s }

/-- End a call with a failure in a stage, after what was sent and received. -/
def Client.fail [Monad m] (cl : Client) (c : Call) (stage : Stage) (cause : Report)
    (request : Option String) (response : Option Response) : CallM m RequestError := do
  let status := (response.map (·.status)).getD 0
  note (.event { c.event cl.now .requestFailed .failed with error := some cause, httpStatus := status })
  pure { operation := c.operation, stage, requestId := c.requestId, url := c.url, request,
         response := response.map (·.raw), httpStatus := status, cause }

/-- How a call reads its result from an envelope: nothing when the result is not there, a text
when it cannot be decoded, else the result code, its message and the rest of the result. -/
abbrev ResultReader (α : Type) := Envelope → Option (Except String (String × String × α))

/-- Read the result of a call from its envelope: the code, the message and the rest of the
result, or none of them when the result is not there or cannot be decoded, which is logged as a
warning. -/
def Call.extract [Monad m] (c : Call) (reader : ResultReader α) (env : Envelope) :
    CallM m (String × String × Option α) :=
  match reader env with
  | none => pure ("", "", none)
  | some (.error err) => do
    note (.record ⟨.warn, "result node could not be decoded",
      [component, ("operation", .text c.operation.name), ("error", .text err)]⟩)
    pure ("", "", none)
  | some (.ok (code, message, a)) => pure (code, message, some a)

/-- Build, send and read the request of a call with a body. Also the rest of the result, when it
was read. -/
def Client.run [Monad m] (cl : Client) (ex : Exchanger m) (c : Call) (body : Payload)
    (reader : ResultReader α) : CallM m (Except RequestError (Outcome × Option α)) := do
  match ← CallM.lift (ex.prepare c.url body) with
  | .error e => return .error (← cl.fail c .building e none none)
  | .ok none => halt .noRequest
  | .ok (some req) =>
    let c := { c with route := req.route.name }
    note (.event { c.event cl.now .requestBuilt .building with bytes := (encode req.payload).length })
    note (.event (c.event cl.now .requestSent .transmitting))
    let (records, sent) ← CallM.lift (ex.send req)
    for r in records do note (.record (r.withAttrs [component]))
    match sent with
    | .error e => return .error (← cl.fail c .transmitting e (some req.payload) none)
    | .ok none => halt .noResponse
    | .ok (some res) =>
      note (.event { c.event cl.now .responseReceived .parsingResponse with
        httpStatus := res.status, bytes := res.raw.length })
      match Envelope.read (decodeLossy res.raw) with
      | .error e => return .error (← cl.fail c .parsingResponse (Report.of e) (some req.payload) (some res))
      | .ok env =>
        let (code, message, rest) ← c.extract reader env
        let state := if code.isEmpty then Stage.rejected else .completed
        note (.event { c.event cl.now .parseResult state with httpStatus := res.status, code })
        return .ok (⟨c.operation, c.requestId, c.did, c.url, state, res.status, req.payload, res.raw,
          env, code, message⟩, rest)

/-- Read a result of a name from an envelope with a reader of its fields. -/
def readResult (name : String) (f : ResultNodes → ResultNodes → String × String × α) : ResultReader α :=
  fun env => (env.resultFields name).map fun r =>
    match r with
    | .ok (fs, written) => .ok (f fs written)
    | .error e => .error (Reportable.message e)

/-- The result of a taxpayer lookup. -/
structure RucLookup where
  outcome : Outcome
  taxpayer : Option Taxpayer

/-- The result of a document reception. -/
structure DocumentSubmission where
  outcome : Outcome
  cdc : String
  signedXml : String
  status : String
  protocol : String
  messages : List ProcessingMessage

/-- The result of a lot reception: the lot sent and the number to query it by. -/
structure LotSubmission where
  outcome : Outcome
  lot : Lot
  protocol : String

/-- The result of a lot query. -/
structure LotQuery where
  outcome : Outcome
  documents : List LotDocumentResult

/-- The result of a document query: the document's markup when the answer carries it. -/
structure DocumentQuery where
  outcome : Outcome
  content : Option String

/-- Look a taxpayer up by RUC (without its check digit). -/
def Client.lookupRuc [Monad m] (cl : Client) (ex : Exchanger m) (did rid ruc : String) :
    CallM m (Except RequestError RucLookup) := do
  let c : Call := ⟨.rucLookup, cl.url cl.paths.ruc, did, rid, ""⟩
  if !isRuc ruc then return .error (← cl.fail c .building (Report.of (ArgumentError.ruc ruc)) none none)
  let reader := readResult rucResultName fun fs _ =>
    let r := RucResult.ofFields fs
    (r.code, r.message, r.taxpayer)
  return (← cl.run ex c (.rucQuery did ruc) reader).map fun (o, t) => ⟨o, t.bind id⟩

/-- Sign a document and send it for reception. Also the document after the call. -/
def Client.submitDocument [Monad m] (cl : Client) (ex : Exchanger m) (did rid : String)
    (doc : Option Document) : CallM m (Option Document × Except RequestError DocumentSubmission) := do
  let c : Call := ⟨.documentReception, cl.url cl.paths.document, did, rid, ""⟩
  if doc.isNone then
    return (doc, .error (← cl.fail c .building (Report.of SigningError.noDocument) none none))
  let some a := cl.assembler
    | return (doc, .error (← cl.fail c .signing (Report.of SigningError.noSigner) none none))
  match a.document doc with
  | .error (.halted o) => halt (.overflow o)
  | .error e =>
    let r := Report.of e
    return (doc, .error (← cl.fail c (stageOf r.kinds) r none none))
  | .ok (d, signed) =>
    let reader := readResult documentResultName fun fs _ =>
      let p := DocumentProtocol.ofFields (recordField fs "rProtDe")
      let first := p.messages.head?
      ((first.map (·.code)).getD "", (first.map (·.message)).getD "", p)
    let r ← cl.run ex c (.documentSubmission did signed.xml) reader
    return (some d, r.map fun (o, p) => match p with
      | some p => ⟨o, signed.id, signed.xml, p.status, p.protocol, p.messages⟩
      | none => ⟨o, signed.id, signed.xml, "", "", []⟩)

/-- Assemble, encode and send a lot of documents; the lot's identifier is the dId. Also the
documents after the call. -/
def Client.submitLot [Monad m] (cl : Client) (ex : Exchanger m) (did rid : String)
    (docs : List (Option Document)) :
    CallM m (List (Option Document) × Except RequestError LotSubmission) := do
  let c : Call := ⟨.lotReception, cl.url cl.paths.lot, did, rid, ""⟩
  let some a := cl.assembler
    | return (docs, .error (← cl.fail c .signing (Report.of SigningError.noSigner) none none))
  match a.lot did docs with
  | .error (.halted o) => halt (.overflow o)
  | .error e =>
    let r := Report.of e
    return (docs, .error (← cl.fail c (stageOf r.kinds) r none none))
  | .ok (sealed, lot) =>
    let after := sealed.map some
    note (.record ⟨.debug, "assembled lot", [component, ("id", .text did),
      ("documents", .int docs.length)]⟩)
    match Archive.encodeLot lot.text with
    | .error e => return (after, .error (← cl.fail c .encoding (Report.of e) none none))
    | .ok payload =>
      let reader := readResult lotResultName fun fs _ =>
        let r := LotResult.ofFields fs
        (r.code, r.message, r.protocol)
      let r ← cl.run ex c (.lotSubmission did payload) reader
      return (after, r.map fun (o, p) => ⟨o, lot, p.getD ""⟩)

/-- Ask for the results of the documents of a lot, by the lot's number. -/
def Client.queryLot [Monad m] (cl : Client) (ex : Exchanger m) (did rid number : String) :
    CallM m (Except RequestError LotQuery) := do
  let c : Call := ⟨.lotQuery, cl.url cl.paths.lotQuery, did, rid, ""⟩
  if !isDigits number then
    return .error (← cl.fail c .building (Report.of (ArgumentError.lotNumber number)) none none)
  let reader := readResult lotQueryResultName fun fs _ =>
    let r := LotQueryResult.ofFields fs
    (r.code, r.message, r.documents)
  return (← cl.run ex c (.lotQuery did number) reader).map fun (o, ds) => ⟨o, ds.getD []⟩

/-- Ask for a document by its identifier. -/
def Client.queryDocument [Monad m] (cl : Client) (ex : Exchanger m) (did rid cdc : String) :
    CallM m (Except RequestError DocumentQuery) := do
  let c : Call := ⟨.documentQuery, cl.url cl.paths.documentQuery, did, rid, ""⟩
  if !isValidIdentifier cdc then
    return .error (← cl.fail c .building (Report.of (ArgumentError.identifier cdc)) none none)
  let reader := readResult documentInfoResultName fun fs written =>
    let r := DocumentInfoResult.ofFields fs written
    (r.code, r.message, r.content)
  return (← cl.run ex c (.documentQuery did cdc) reader).map fun (o, content) => ⟨o, content.bind id⟩

end EInvoice.Sifen
