import EInvoice.Clock.Time
import EInvoice.Failure
import EInvoice.Log.Record
import EInvoice.Soap.Response
import EInvoice.Text.Utf8

/-!
# The life of a request

A call to the service goes through stages: its request is built, its document signed, its lot
encoded, the request transmitted and the response parsed. It ends completed (the authority's
result code was found), rejected (a response came without one) or failed (some stage went
wrong, `RequestError`).

Each step is announced by an `Event`: the request was built, sent, its response received,
its result parsed, or the call failed. Every event names the call's request identifier,
operation and target, and the time of the client's clock.

A call also leaves log records. The events are written as records too, at a level that
follows what happened: a failure is an error, a rejection a warning, another parsed result
information, and the rest debug detail (`Event.record`). What a call leaves, events and other
records in the order they happened, is its list of `Note`s.
-/

namespace EInvoice.Sifen

open EInvoice.Clock EInvoice.Log EInvoice.Soap EInvoice.Text

/-- A stage of a call, or how it ended. -/
inductive Stage where
  | building
  | signing
  | encoding
  | transmitting
  | parsingResponse
  | completed
  | rejected
  | failed
  deriving Repr, DecidableEq

/-- The name of a stage. -/
def Stage.name : Stage → String
  | .building => "building"
  | .signing => "signing"
  | .encoding => "encoding"
  | .transmitting => "transmitting"
  | .parsingResponse => "parsing-response"
  | .completed => "completed"
  | .rejected => "rejected"
  | .failed => "failed"

/-- Whether a call has ended in this stage. -/
def Stage.isTerminal : Stage → Bool
  | .completed | .rejected | .failed => true
  | _ => false

/-- The services of the authority. -/
inductive Operation where
  | rucLookup
  | documentReception
  | lotReception
  | lotQuery
  | documentQuery
  deriving Repr, DecidableEq

/-- The name of a service. -/
def Operation.name : Operation → String
  | .rucLookup => "ruc-lookup"
  | .documentReception => "document-reception"
  | .lotReception => "lot-reception"
  | .lotQuery => "lot-query"
  | .documentQuery => "document-query"

/-- What an event announces. -/
inductive EventKind where
  | requestBuilt
  | requestSent
  | responseReceived
  | parseResult
  | requestFailed
  deriving Repr, DecidableEq

/-- The name of an event kind. -/
def EventKind.name : EventKind → String
  | .requestBuilt => "request-built"
  | .requestSent => "request-sent"
  | .responseReceived => "response-received"
  | .parseResult => "parse-result"
  | .requestFailed => "request-failed"

/-- An event of a call. Fields that do not apply to its kind are empty or zero. -/
structure Event where
  kind : EventKind
  time : Time
  requestId : String
  operation : Operation
  url : String
  route : String
  state : Stage
  httpStatus : Nat := 0
  bytes : Nat := 0
  code : String := ""
  error : Option Report := none

/-- A failed call: the stage that failed, what was sent and received before, and the cause. -/
structure RequestError where
  operation : Operation
  stage : Stage
  requestId : String
  url : String
  request : Option String := none
  response : Option Bytes := none
  httpStatus : Nat := 0
  cause : Report

instance : Reportable RequestError where
  message e := "sifen " ++ e.operation.name ++ " failed while " ++ e.stage.name ++
    (if e.httpStatus = 0 then "" else " (HTTP " ++ toString e.httpStatus ++ ")") ++ ": " ++
    e.cause.message
  kinds e := e.cause.kinds

/-- The stage that a failure to sign or assemble is put in: signing for a signed document or a
credential fault, building for invalid fields, a wrong checksum or a lot of the wrong size,
and signing for anything else. -/
def stageOf (ks : List Kind) : Stage :=
  if ks.contains .alreadySigned || ks.contains .signingCredential then .signing
  else if ks.contains .invalidFields || ks.contains .checksumMismatch ||
      ks.contains .lotTooLarge || ks.contains .emptyLot then .building
  else .signing

/-- The common part of what a call that got a response gives: the exchange, the envelope
read from the response, and the authority's result code and message (empty when none was
found). -/
structure Outcome where
  operation : Operation
  requestId : String
  did : String
  url : String
  state : Stage
  httpStatus : Nat
  request : String
  response : Bytes
  envelope : Envelope
  code : String
  message : String

/-- Whether no result code was obtained. -/
def Outcome.indeterminate (o : Outcome) : Bool := o.code.isEmpty

/-- The fault the response carries, if any. -/
def Outcome.fault (o : Outcome) : Option Fault := o.envelope.fault

/-- The level an event is written at. -/
def Event.level (e : Event) : Level :=
  match e.error, e.kind, e.state with
  | some _, _, _ => .error
  | none, .parseResult, .rejected => .warn
  | none, .parseResult, _ => .info
  | none, _, _ => .debug

/-- An event as a log record: its kind, operation and state, then the target, route, status,
size and code when they are set, and the error of a failure. -/
def Event.record (e : Event) : Record :=
  let optional : List (String × Value) :=
    (if e.url.isEmpty then [] else [("url", .text e.url)]) ++
    (if e.route.isEmpty then [] else [("route", .text e.route)]) ++
    (if e.httpStatus = 0 then [] else [("status", .int e.httpStatus)]) ++
    (if e.bytes = 0 then [] else [("bytes", .int e.bytes)]) ++
    (if e.code.isEmpty then [] else [("code", .text e.code)]) ++
    (match e.error with
      | some r => [("error", .text r.message)]
      | none => [])
  ⟨e.level, "sifen " ++ e.kind.name,
    [("event", .text e.kind.name), ("operation", .text e.operation.name),
     ("state", .text e.state.name)] ++ optional⟩

/-- What a call leaves as it goes: an event, or a log record. -/
inductive Note where
  | event (e : Event)
  | record (r : Record)

/-- The events among notes, in order. -/
def events (ns : List Note) : List Event :=
  ns.filterMap fun | .event e => some e | .record _ => none

/-- The log a log at `threshold` writes for notes: each event as its record, the other
records as they are. -/
def logOf (threshold : Level) (ns : List Note) : List Record :=
  written threshold (ns.map fun | .event e => e.record | .record r => r)

end EInvoice.Sifen
