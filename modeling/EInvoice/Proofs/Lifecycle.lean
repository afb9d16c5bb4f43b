import EInvoice.Sifen.Basic
import EInvoice.Proofs.ExponentRange
import EInvoice.Proofs.SignedTrees
import Mathlib

/-!
# The lifecycle of a call

A call of a service takes one of four courses, told apart by the events it announces:

* refused before anything was sent (an argument that is refused, no signer, a document that cannot
  be signed, a lot that cannot be assembled or encoded, a request that cannot be built):
  *request-failed*;
* sent without an answer: *request-built*, *request-sent*, *request-failed*;
* answered with something that is no envelope: *request-built*, *request-sent*,
  *response-received*, *request-failed*;
* answered and read: *request-built*, *request-sent*, *response-received*, *parse-result*.

Every event names the call's identifier and operation. A call fails exactly when its last event
announces a failure. Its error is then in a stage of the course it took, holds the request exactly
when one was built and the response exactly when one was read, and carries what the exchanger or
the envelope reader reported. Otherwise its outcome is in the state its last event announces:
completed when the authority's result code is there, rejected when it is not.

A call can also stop the program instead of returning (`Stopped`): a submission whose document's
tree leaves the decimal library's exponent range stops before any event
(`overflowDocument_submission_stops`), and an exchanger that answers nothing, without an error,
stops the call before any event when it prepares the request, and after *request-built* and
*request-sent* when it sends it.

Calls are run in `Id`, so an exchanger is any pair of functions, one preparing a request and one
sending it. The main statement is `request_lifecycle`, for the five services.

A computation of a call only ever keeps notes after those kept before (`Runs`). What running the
request of a call can do is said once, by how far the request got (`RunEnds`, proved by
`Client.run_ends`); the lifecycle, the metrics and the requests sent are read from it.
-/

namespace EInvoice.Sifen

open EInvoice.Transport EInvoice.Soap EInvoice.Text EInvoice.Invoice

/-! ## Events among notes -/

@[simp] theorem events_nil : events [] = [] := rfl

@[simp] theorem events_append (ns ns' : List Note) : events (ns ++ ns') = events ns ++ events ns' :=
  List.filterMap_append

@[simp] theorem events_cons_event (e : Event) (ns : List Note) :
    events (.event e :: ns) = e :: events ns := rfl

@[simp] theorem events_cons_record (r : Log.Record) (ns : List Note) :
    events (.record r :: ns) = events ns := rfl

@[simp] theorem events_map_record (g : Log.Record → Log.Record) (rs : List Log.Record) :
    events (rs.map fun r => .record (g r)) = [] := by
  induction rs <;> simp_all

section Event

variable (c : Call) (now : Clock.Time) (k : EventKind) (s : Stage)

@[simp] theorem Call.event_kind : (c.event now k s).kind = k := rfl
@[simp] theorem Call.event_requestId : (c.event now k s).requestId = c.requestId := rfl
@[simp] theorem Call.event_operation : (c.event now k s).operation = c.operation := rfl
@[simp] theorem Call.event_state : (c.event now k s).state = s := rfl
@[simp] theorem Call.event_httpStatus : (c.event now k s).httpStatus = 0 := rfl
@[simp] theorem Call.event_code : (c.event now k s).code = "" := rfl
@[simp] theorem Call.event_error : (c.event now k s).error = none := rfl

end Event

/-! ## Computations that keep notes -/

/-- A computation of a call that ends with `r`, what it returns or why it stopped the program,
and keeps the notes `new` after those kept before. -/
def Runs (x : CallM Id α) (r : Except Halt α) (new : List Note) : Prop :=
  ∀ ns, x.run.run ns = (r, ns ++ new)

namespace Runs

variable {x : CallM Id α} {a : α} {new : List Note}

theorem pure (a : α) : Runs (Pure.pure a : CallM Id α) (.ok a) [] := fun _ => by simp; rfl

theorem note (n : Note) : Runs (Sifen.note n : CallM Id Unit) (.ok ()) [n] := fun _ => rfl

theorem lift (v : α) : Runs (CallM.lift v : CallM Id α) (.ok v) [] := fun _ => by simp; rfl

theorem halt (h : Halt) : Runs (Sifen.halt h : CallM Id α) (.error h) [] := fun _ => by simp; rfl

theorem bind {f : α → CallM Id β} {r : Except Halt β} {new' : List Note} (hx : Runs x (.ok a) new)
    (hf : Runs (f a) r new') : Runs (x >>= f) r (new ++ new') := fun ns => by
  rw [ExceptT.run_bind, StateT.run_bind, hx ns, ← List.append_assoc, ← hf]
  rfl

/-- A computation that stops the program stops what follows it. -/
theorem bind_halt {f : α → CallM Id β} {h : Halt} (hx : Runs x (.error h) new) :
    Runs (x >>= f) (.error h) new := fun ns => by
  rw [ExceptT.run_bind, StateT.run_bind, hx ns]
  rfl

/-- Walk through the first step of a computation, towards a property of how the whole ends and
what it keeps. -/
theorem exists_bind {f : α → CallM Id β} {P : Except Halt β → List Note → Prop}
    (hx : Runs x (.ok a) new) (hf : ∃ r new', Runs (f a) r new' ∧ P r (new ++ new')) :
    ∃ r new', Runs (x >>= f) r new' ∧ P r new' := by
  obtain ⟨r, new', hfa, hP⟩ := hf
  exact ⟨r, new ++ new', hx.bind hfa, hP⟩

/-- The records an exchange wrote are kept in their order. -/
theorem records (g : Log.Record → Log.Record) (rs : List Log.Record) :
    Runs (forIn rs PUnit.unit fun r _ => do
        Sifen.note (.record (g r)); Pure.pure (ForInStep.yield PUnit.unit))
      (.ok PUnit.unit) (rs.map fun r => .record (g r)) := by
  induction rs with
  | nil => exact fun _ => by simp; rfl
  | cons r rs ih =>
    have hr : Runs (do Sifen.note (.record (g r)); Pure.pure (ForInStep.yield PUnit.unit) :
        CallM Id _) (.ok (ForInStep.yield PUnit.unit)) [.record (g r)] := (note _).bind (pure _)
    rw [List.forIn_cons, List.map_cons, ← List.singleton_append]
    exact hr.bind ih

end Runs

/-! ## What a call reports -/

namespace Call

variable (c : Call) (now : Clock.Time)

/-- The call once its request is built: it carries the request's route. -/
def routed (req : Request) : Call := { c with route := req.route.name }

/-- The error of a call that failed in a stage, after what was sent and received. -/
def failure (stage : Stage) (cause : Report) (request : Option String)
    (response : Option Response) : RequestError :=
  { operation := c.operation, stage, requestId := c.requestId, url := c.url, request,
    response := response.map (·.raw), httpStatus := (response.map (·.status)).getD 0, cause }

/-- The event of a failure, with its cause and the status of the response. -/
def failedEvent (cause : Report) (status : Nat) : Event :=
  { c.event now .requestFailed .failed with error := some cause, httpStatus := status }

/-- The event of a request built, with its size. -/
def builtEvent (req : Request) : Event :=
  { (c.routed req).event now .requestBuilt .building with bytes := (encode req.payload).length }

/-- The event of a request sent. -/
def sentEvent (req : Request) : Event := (c.routed req).event now .requestSent .transmitting

/-- The event of a response received, with its status and size. -/
def receivedEvent (req : Request) (res : Response) : Event :=
  { (c.routed req).event now .responseReceived .parsingResponse with
    httpStatus := res.status, bytes := res.raw.length }

/-- The state of an outcome: completed when the authority's result code is there. -/
def stateOf (code : String) : Stage := if code.isEmpty then .rejected else .completed

/-- The event of a result read, with the state its code gives. -/
def parsedEvent (req : Request) (res : Response) (code : String) : Event :=
  { (c.routed req).event now .parseResult (stateOf code) with httpStatus := res.status, code }

/-- The outcome of an exchange whose result was read. -/
def outcome (req : Request) (res : Response) (env : Envelope) (code message : String) : Outcome :=
  ⟨c.operation, c.requestId, c.did, c.url, stateOf code, res.status, req.payload, res.raw, env, code,
    message⟩

end Call

/-- What reading the result of an envelope gives: the code, the message and the rest of the
result, or none of them when the result is not there or cannot be decoded. -/
def extracted (reader : ResultReader α) (env : Envelope) : String × String × Option α :=
  match reader env with
  | some (.ok (code, message, a)) => (code, message, some a)
  | _ => ("", "", none)

theorem Runs.fail (cl : Client) (c : Call) (stage : Stage) (cause : Report)
    (request : Option String) (response : Option Response) :
    Runs (cl.fail c stage cause request response : CallM Id RequestError)
      (.ok (c.failure stage cause request response))
      [.event (c.failedEvent cl.now cause ((response.map (·.status)).getD 0))] := fun _ => rfl

/-- Reading the result of a call announces no event: at most a warning is logged. -/
theorem Runs.extract (c : Call) (reader : ResultReader α) (env : Envelope) :
    ∃ extra, Runs (c.extract reader env : CallM Id _) (.ok (extracted reader env)) extra ∧
      events extra = [] := by
  unfold Call.extract extracted
  rcases reader env with _ | _ | ⟨code, message, a⟩
  · exact ⟨[], Runs.pure _, rfl⟩
  · exact ⟨_, (Runs.note _).bind (Runs.pure _), by simp⟩
  · exact ⟨[], Runs.pure _, rfl⟩

/-! ## Running a request -/

/-- How running the request of a call ends, by how far the request got: what the run returns or
why it stops the program, and the events it announces. -/
inductive RunEnds (cl : Client) (ex : Exchanger Id) (c : Call) (body : Payload)
    (reader : ResultReader α) : Except Halt (Except RequestError (Outcome × Option α)) → List Event →
      Prop
  /-- the exchanger cannot build the request -/
  | unbuilt {e : Report} : ex.prepare c.url body = .error e →
      RunEnds cl ex c body reader (.ok (.error (c.failure .building e none none)))
        [c.failedEvent cl.now e 0]
  /-- the exchanger answers neither a request nor an error -/
  | noRequest : ex.prepare c.url body = .ok none → RunEnds cl ex c body reader (.error .noRequest) []
  /-- the request is sent and the exchanger reports an error -/
  | unanswered {req : Request} {records : List Log.Record} {e : Report} :
      ex.prepare c.url body = .ok (some req) → ex.send req = (records, .error e) →
      RunEnds cl ex c body reader
        (.ok (.error ((c.routed req).failure .transmitting e (some req.payload) none)))
        [c.builtEvent cl.now req, c.sentEvent cl.now req, (c.routed req).failedEvent cl.now e 0]
  /-- the request is sent and the exchanger answers neither a response nor an error -/
  | noResponse {req : Request} {records : List Log.Record} :
      ex.prepare c.url body = .ok (some req) → ex.send req = (records, .ok none) →
      RunEnds cl ex c body reader (.error .noResponse) [c.builtEvent cl.now req, c.sentEvent cl.now req]
  /-- a response comes back that is no envelope -/
  | unreadable {req : Request} {records : List Log.Record} {res : Response} {e : Unparseable} :
      ex.prepare c.url body = .ok (some req) → ex.send req = (records, .ok (some res)) →
      Envelope.read (decodeLossy res.raw) = .error e →
      RunEnds cl ex c body reader
        (.ok (.error ((c.routed req).failure .parsingResponse (Report.of e) (some req.payload) (some res))))
        [c.builtEvent cl.now req, c.sentEvent cl.now req, c.receivedEvent cl.now req res,
          (c.routed req).failedEvent cl.now (Report.of e) res.status]
  /-- a response comes back and its result is read -/
  | parsed {req : Request} {records : List Log.Record} {res : Response} {env : Envelope}
      {code message : String} {rest : Option α} :
      ex.prepare c.url body = .ok (some req) → ex.send req = (records, .ok (some res)) →
      Envelope.read (decodeLossy res.raw) = .ok env → extracted reader env = (code, message, rest) →
      RunEnds cl ex c body reader (.ok (.ok (c.outcome req res env code message, rest)))
        [c.builtEvent cl.now req, c.sentEvent cl.now req, c.receivedEvent cl.now req res,
          c.parsedEvent cl.now req res code]

/-- Every run of a request ends in one of the ways of `RunEnds`, whatever the exchanger answers. -/
theorem Client.run_ends (cl : Client) (ex : Exchanger Id) (c : Call) (body : Payload)
    (reader : ResultReader α) :
    ∃ r new, Runs (cl.run ex c body reader) r new ∧ RunEnds cl ex c body reader r (events new) := by
  simp only [Client.run]
  refine Runs.exists_bind (Runs.lift _) ?_
  rcases hp : ex.prepare c.url body with e | _ | req
  · exact ⟨_, _, (Runs.fail _ _ _ _ _ _).bind (Runs.pure _), by simpa using .unbuilt hp⟩
  · exact ⟨_, _, Runs.halt _, .noRequest hp⟩
  -- the request is built and sent, and the records of the exchange kept
  refine Runs.exists_bind (Runs.note _) (Runs.exists_bind (Runs.note _)
    (Runs.exists_bind (Runs.lift _) (Runs.exists_bind (Runs.records _ _) ?_)))
  rcases hs : ex.send req with ⟨records, e | _ | res⟩
  · exact ⟨_, _, (Runs.fail _ _ _ _ _ _).bind (Runs.pure _), by simpa using .unanswered hp hs⟩
  · exact ⟨_, _, Runs.halt _, by simpa using .noResponse hp hs⟩
  refine Runs.exists_bind (Runs.note _) ?_
  cases henv : Envelope.read (decodeLossy res.raw) with
  | error e =>
    exact ⟨_, _, (Runs.fail _ _ _ _ _ _).bind (Runs.pure _), by simpa using .unreadable hp hs henv⟩
  | ok env =>
    obtain ⟨extra, hread, hextra⟩ := Runs.extract _ reader env
    refine Runs.exists_bind hread ⟨_, _, (Runs.note _).bind (Runs.pure _), ?_⟩
    simp only [events_append, events_cons_event, events_map_record, events_nil, hextra,
      List.nil_append, List.cons_append]
    exact .parsed hp hs henv rfl

/-! ## The courses of a call -/

/-- The four courses a call that returns can take, by how far it got. -/
inductive Course where
  /-- refused before anything was sent -/
  | refused
  /-- sent, with no answer -/
  | unanswered
  /-- answered with something that is no envelope -/
  | unreadable
  /-- answered, and its result read -/
  | parsed
  deriving DecidableEq, Repr

/-- The kinds of the events a call announces on a course. -/
def Course.kinds : Course → List EventKind
  | .refused => [.requestFailed]
  | .unanswered => [.requestBuilt, .requestSent, .requestFailed]
  | .unreadable => [.requestBuilt, .requestSent, .responseReceived, .requestFailed]
  | .parsed => [.requestBuilt, .requestSent, .responseReceived, .parseResult]

/-- How a call that took a course ends, for an exchanger: the first three with an error in a
stage of that course, holding the request exactly once it was sent and the response exactly once
one came back, and caused by what the exchanger or the envelope reader reported; the last with an
outcome of an exchange, completed exactly when the result code is there. -/
def Course.Ends (ex : Exchanger Id) : Course → Except RequestError Outcome → Prop
  | .refused, .error err =>
    err.stage ∈ [.building, .signing, .encoding] ∧ err.request = none ∧ err.response = none
  | .unanswered, .error err =>
    err.stage = .transmitting ∧ err.response = none ∧
      ∃ req records x, ex.send req = (records, .error x) ∧ err.request = some req.payload ∧
        err.cause = x
  | .unreadable, .error err =>
    err.stage = .parsingResponse ∧
      ∃ req records res x, ex.send req = (records, .ok (some res)) ∧
        err.request = some req.payload ∧ err.response = some res.raw ∧
        Envelope.read (decodeLossy res.raw) = .error x ∧ err.cause = Report.of x
  | .parsed, .ok o =>
    (o.state = if o.code.isEmpty then .rejected else .completed) ∧
      ∃ req records res, ex.send req = (records, .ok (some res)) ∧ o.request = req.payload ∧
        o.response = res.raw ∧ o.httpStatus = res.status
  | _, _ => False

/-- What a call of an operation, with an identifier, returns and announces through an exchanger. -/
structure Lifecycle (ex : Exchanger Id) (op : Operation) (rid : String)
    (r : Except RequestError Outcome) (es : List Event) : Prop where
  /-- every event names the call -/
  names : ∀ e ∈ es, e.requestId = rid ∧ e.operation = op
  /-- the events follow one course, and the call ends as that course does -/
  course : ∃ k : Course, es.map (·.kind) = k.kinds ∧ k.Ends ex r
  /-- the call fails exactly when its last event announces a failure -/
  fails_iff : (∃ err, r = .error err) ↔ es.getLast?.map (·.kind) = some .requestFailed
  /-- an error names the call, its cause is carried by the last event and its conditions are
  those of its cause -/
  error : ∀ err, r = .error err → err.operation = op ∧ err.requestId = rid ∧
    (∃ e, es.getLast? = some e ∧ e.error = some err.cause ∧ e.httpStatus = err.httpStatus) ∧
    ∀ k, k ∈ (Report.of err).kinds ↔ k ∈ err.cause.kinds
  /-- an outcome names the call and is what its last event announces -/
  outcome : ∀ o, r = .ok o → o.operation = op ∧ o.requestId = rid ∧
    ∃ e, es.getLast? = some e ∧ e.state = o.state ∧ e.code = o.code ∧ e.httpStatus = o.httpStatus

theorem Lifecycle.of_course {ex : Exchanger Id} {op : Operation} {rid : String}
    {r : Except RequestError Outcome} {es : List Event} (k : Course)
    (hk : es.map (·.kind) = k.kinds) (hends : k.Ends ex r)
    (names : ∀ e ∈ es, e.requestId = rid ∧ e.operation = op)
    (error : ∀ err, r = .error err → err.operation = op ∧ err.requestId = rid ∧
      ∃ e, es.getLast? = some e ∧ e.error = some err.cause ∧ e.httpStatus = err.httpStatus)
    (outcome : ∀ o, r = .ok o → o.operation = op ∧ o.requestId = rid ∧
      ∃ e, es.getLast? = some e ∧ e.state = o.state ∧ e.code = o.code ∧
        e.httpStatus = o.httpStatus) :
    Lifecycle ex op rid r es where
  names := names
  course := ⟨k, hk, hends⟩
  fails_iff := by
    -- the last kind is read off the course; the course fixes whether the call failed
    rw [← List.getLast?_map, hk]
    cases k <;> cases r <;> simp_all [Course.kinds, Course.Ends]
  error err h := by
    obtain ⟨hop, hrid, hlast⟩ := error err h
    exact ⟨hop, hrid, hlast, fun k => Kind.mem_sortedOf k _⟩
  outcome := outcome

/-- Why a call of an operation, with an identifier, stops the program, and what it announced
before: the totals of a document leave the decimal library's exponent range, where `overflows`
allows it, before any event; the exchanger prepares neither a request nor an error, before any
event; or the exchanger sends the request and answers neither a response nor an error, after the
call announced the request built and sent. -/
def Stopped (ex : Exchanger Id) (op : Operation) (rid : String)
    (overflows : Decimal.Overflow → Prop) : Halt → List Event → Prop
  | .overflow o, es => overflows o ∧ es = []
  | .noRequest, es => (∃ url body, ex.prepare url body = .ok none) ∧ es = []
  | .noResponse, es => (∃ req records, ex.send req = (records, .ok none)) ∧
      es.map (·.kind) = [.requestBuilt, .requestSent] ∧ ∀ e ∈ es, e.requestId = rid ∧ e.operation = op

/-- A call keeps to its lifecycle: it ends and keeps notes `new` after those kept before; when it
returns, what it returns, seen through `view`, and the events among `new` keep to `Lifecycle`;
when it stops the program, it stops as `Stopped` allows. -/
def Keeps (ex : Exchanger Id) (op : Operation) (rid : String) (overflows : Decimal.Overflow → Prop)
    (x : CallM Id α) (view : α → Except RequestError Outcome) : Prop :=
  ∃ r new, Runs x r new ∧ (∀ a, r = .ok a → Lifecycle ex op rid (view a) (events new)) ∧
    ∀ h, r = .error h → Stopped ex op rid overflows h (events new)

section Keeps

variable {ex : Exchanger Id} {op : Operation} {rid : String} {overflows : Decimal.Overflow → Prop}
  {x : CallM Id α} {view : α → Except RequestError Outcome}

theorem Keeps.of_ok {a : α} {new : List Note} (hx : Runs x (.ok a) new)
    (h : Lifecycle ex op rid (view a) (events new)) : Keeps ex op rid overflows x view :=
  ⟨_, new, hx, by rintro _ ⟨⟩; exact h, by rintro _ ⟨⟩⟩

/-- Passing on what a call returned, in a form that shows the same, keeps the lifecycle. -/
theorem Keeps.pass {k : α → β} {view' : β → Except RequestError Outcome}
    (hx : Keeps ex op rid overflows x view) (hk : ∀ a, view' (k a) = view a) :
    Keeps ex op rid overflows (x >>= fun a => Pure.pure (k a)) view' := by
  obtain ⟨r, new, hrun, hok, hstop⟩ := hx
  rcases r with h | a
  · exact ⟨_, new, hrun.bind_halt, by rintro _ ⟨⟩, by rintro _ ⟨⟩; exact hstop h rfl⟩
  · exact .of_ok (hrun.bind (Runs.pure _)) (by simpa [hk] using hok a rfl)

/-- A log record kept before a call announces no event. -/
theorem Keeps.after_record (r : Log.Record) (hx : Keeps ex op rid overflows x view) :
    Keeps ex op rid overflows (note (.record r) >>= fun _ => x) view := by
  obtain ⟨r', new, hrun, hok, hstop⟩ := hx
  exact ⟨r', [.record r] ++ new, (Runs.note _).bind hrun, by simpa using hok, by simpa using hstop⟩

/-- A stop on a document's totals that the caller allows keeps the lifecycle. -/
theorem Keeps.overflow {o : Decimal.Overflow} (h : overflows o) :
    Keeps ex op rid overflows (halt (.overflow o) : CallM Id α) view :=
  ⟨_, [], Runs.halt _, by rintro _ ⟨⟩, by rintro _ ⟨⟩; exact ⟨h, rfl⟩⟩

end Keeps

/-! ## A call that is refused -/

theorem fail_keeps (cl : Client) (ex : Exchanger Id) (c : Call) {stage : Stage}
    (hstage : stage ∈ [Stage.building, .signing, .encoding]) (cause : Report)
    (overflows : Decimal.Overflow → Prop) :
    Keeps ex c.operation c.requestId overflows (cl.fail c stage cause none none) .error := by
  refine .of_ok (Runs.fail cl c stage cause none none) ?_
  apply Lifecycle.of_course .refused
  · simp [Course.kinds, Call.failedEvent]
  · simpa [Course.Ends, Call.failure] using hstage
  · simp [Call.failedEvent]
  · simp [Call.failure, Call.failedEvent]
  · simp

/-- A failure to sign or assemble is put in a stage before sending. -/
theorem stageOf_mem (ks : List Kind) : stageOf ks ∈ [Stage.building, .signing, .encoding] := by
  unfold stageOf
  split_ifs <;> simp

example : stageOf [.alreadySigned] = .signing := rfl

/-! ## Running a request -/

/-- Each way a run of a request ends keeps the lifecycle of its call: the four that return follow
their courses, and the two that stop the program do so on an answer of nothing from the
exchanger. -/
theorem RunEnds.keeps {cl : Client} {ex : Exchanger Id} {c : Call} {body : Payload}
    {reader : ResultReader α} {r : Except Halt (Except RequestError (Outcome × Option α))}
    {es : List Event} (overflows : Decimal.Overflow → Prop) (h : RunEnds cl ex c body reader r es) :
    (∀ a, r = .ok a → Lifecycle ex c.operation c.requestId (a.map (·.1)) es) ∧
      ∀ h, r = .error h → Stopped ex c.operation c.requestId overflows h es := by
  cases h with
  | unbuilt hp =>
    refine ⟨fun a ha => ?_, by rintro _ ⟨⟩⟩
    cases ha
    apply Lifecycle.of_course .refused
    · simp [Course.kinds, Call.failedEvent]
    · simp [Course.Ends, Call.failure, Except.map]
    · simp [Call.failedEvent]
    · simp [Call.failure, Call.failedEvent, Except.map]
    · simp [Except.map]
  | noRequest hp => exact ⟨by rintro _ ⟨⟩, by rintro _ ⟨⟩; exact ⟨⟨_, _, hp⟩, rfl⟩⟩
  | unanswered hp hs =>
    refine ⟨fun a ha => ?_, by rintro _ ⟨⟩⟩
    cases ha
    apply Lifecycle.of_course .unanswered
    · simp [Course.kinds, Call.builtEvent, Call.sentEvent, Call.failedEvent]
    · exact ⟨rfl, rfl, _, _, _, hs, rfl, rfl⟩
    · simp [Call.builtEvent, Call.sentEvent, Call.failedEvent, Call.routed]
    · simp [Call.failure, Call.failedEvent, Call.routed, Except.map]
    · simp [Except.map]
  | noResponse hp hs =>
    refine ⟨by rintro _ ⟨⟩, fun h hh => ?_⟩
    cases hh
    refine ⟨⟨_, _, hs⟩, ?_, ?_⟩
    · simp [Call.builtEvent, Call.sentEvent]
    · simp [Call.builtEvent, Call.sentEvent, Call.routed]
  | unreadable hp hs henv =>
    refine ⟨fun a ha => ?_, by rintro _ ⟨⟩⟩
    cases ha
    apply Lifecycle.of_course .unreadable
    · simp [Course.kinds, Call.builtEvent, Call.sentEvent, Call.receivedEvent, Call.failedEvent]
    · exact ⟨rfl, _, _, _, _, hs, rfl, rfl, henv, rfl⟩
    · simp [Call.builtEvent, Call.sentEvent, Call.receivedEvent, Call.failedEvent, Call.routed]
    · simp [Call.failure, Call.failedEvent, Call.routed, Except.map]
    · simp [Except.map]
  | parsed hp hs henv hx =>
    refine ⟨fun a ha => ?_, by rintro _ ⟨⟩⟩
    cases ha
    apply Lifecycle.of_course .parsed
    · simp [Course.kinds, Call.builtEvent, Call.sentEvent, Call.receivedEvent, Call.parsedEvent]
    · exact ⟨rfl, _, _, _, hs, rfl, rfl, rfl⟩
    · simp [Call.builtEvent, Call.sentEvent, Call.receivedEvent, Call.parsedEvent, Call.routed]
    · simp [Except.map]
    · simp [Call.outcome, Call.parsedEvent, Call.routed, Except.map]

theorem run_keeps (cl : Client) (ex : Exchanger Id) (c : Call) (body : Payload)
    (reader : ResultReader α) (overflows : Decimal.Overflow → Prop) :
    Keeps ex c.operation c.requestId overflows (cl.run ex c body reader) (·.map (·.1)) := by
  obtain ⟨r, new, hrun, hends⟩ := Client.run_ends cl ex c body reader
  exact ⟨r, new, hrun, hends.keeps overflows⟩

/-- What a call returns after running its request shows the outcome of the run. -/
theorem run_keeps_pass (cl : Client) (ex : Exchanger Id) (c : Call) (body : Payload)
    (reader : ResultReader α) (overflows : Decimal.Overflow → Prop)
    {k : Except RequestError (Outcome × Option α) → β} {view : β → Except RequestError Outcome}
    (hk : ∀ r, view (k r) = r.map (·.1)) :
    Keeps ex c.operation c.requestId overflows
      (cl.run ex c body reader >>= fun r => Pure.pure (k r)) view :=
  (run_keeps cl ex c body reader overflows).pass hk

/-! ## The services -/

/-- The stops a document submission allows: the client has an assembler, and the tree of the
document at the assembler's time leaves the exponent range. -/
def DocumentOverflows (cl : Client) (doc : Option Document) (o : Decimal.Overflow) : Prop :=
  ∃ a d, cl.assembler = some a ∧ doc = some d ∧ d.elementChecked a.now = .error o

/-- The stops a lot submission allows: the client has an assembler, and the tree of one of the
documents at the assembler's time leaves the exponent range. -/
def LotOverflows (cl : Client) (docs : List (Option Document)) (o : Decimal.Overflow) : Prop :=
  ∃ a d, cl.assembler = some a ∧ some d ∈ docs ∧ d.elementChecked a.now = .error o

theorem lookupRuc_keeps (cl : Client) (ex : Exchanger Id) (did rid ruc : String) :
    Keeps ex .rucLookup rid (fun _ => False) (cl.lookupRuc ex did rid ruc) (·.map (·.outcome)) := by
  unfold Client.lookupRuc
  split
  · exact (fail_keeps cl ex _ (show Stage.building ∈ _ by simp) _ _).pass fun _ => rfl
  · exact run_keeps_pass cl ex _ _ _ _ fun r => by cases r <;> rfl

theorem submitDocument_keeps (cl : Client) (ex : Exchanger Id) (did rid : String)
    (doc : Option Document) :
    Keeps ex .documentReception rid (DocumentOverflows cl doc) (cl.submitDocument ex did rid doc)
      (·.2.map (·.outcome)) := by
  unfold Client.submitDocument
  dsimp only
  split
  · exact (fail_keeps cl ex _ (show Stage.building ∈ _ by simp) _ _).pass fun _ => rfl
  · split
    · rename_i a ha
      split
      · -- the document's tree stops the program
        rename_i o hdoc
        obtain ⟨d, rfl, he⟩ := Signing.Assembler.document_eq_halted hdoc
        exact .overflow ⟨a, d, ha, rfl, he⟩
      · exact (fail_keeps cl ex _ (stageOf_mem _) _ _).pass fun _ => rfl
      · exact run_keeps_pass cl ex _ _ _ _ fun r => by rcases r with _ | ⟨o, _ | p⟩ <;> rfl
    · exact (fail_keeps cl ex _ (show Stage.signing ∈ _ by simp) _ _).pass fun _ => rfl

theorem submitLot_keeps (cl : Client) (ex : Exchanger Id) (did rid : String)
    (docs : List (Option Document)) :
    Keeps ex .lotReception rid (LotOverflows cl docs) (cl.submitLot ex did rid docs)
      (·.2.map (·.outcome)) := by
  unfold Client.submitLot
  dsimp only
  split
  · rename_i a ha
    split
    · -- the tree of one of the documents stops the program
      rename_i o hlot
      obtain ⟨d, hd, he⟩ := Signing.Assembler.lot_eq_halted hlot
      exact .overflow ⟨a, d, ha, hd, he⟩
    · exact (fail_keeps cl ex _ (stageOf_mem _) _ _).pass fun _ => rfl
    · -- the assembled lot is logged before it is encoded
      refine Keeps.after_record _ ?_
      split
      · exact (fail_keeps cl ex _ (show Stage.encoding ∈ _ by simp) _ _).pass fun _ => rfl
      · exact run_keeps_pass cl ex _ _ _ _ fun r => by cases r <;> rfl
  · exact (fail_keeps cl ex _ (show Stage.signing ∈ _ by simp) _ _).pass fun _ => rfl

theorem queryLot_keeps (cl : Client) (ex : Exchanger Id) (did rid number : String) :
    Keeps ex .lotQuery rid (fun _ => False) (cl.queryLot ex did rid number) (·.map (·.outcome)) := by
  unfold Client.queryLot
  split
  · exact (fail_keeps cl ex _ (show Stage.building ∈ _ by simp) _ _).pass fun _ => rfl
  · exact run_keeps_pass cl ex _ _ _ _ fun r => by cases r <;> rfl

theorem queryDocument_keeps (cl : Client) (ex : Exchanger Id) (did rid cdc : String) :
    Keeps ex .documentQuery rid (fun _ => False) (cl.queryDocument ex did rid cdc)
      (·.map (·.outcome)) := by
  unfold Client.queryDocument
  split
  · exact (fail_keeps cl ex _ (show Stage.building ∈ _ by simp) _ _).pass fun _ => rfl
  · exact run_keeps_pass cl ex _ _ _ _ fun r => by cases r <;> rfl

/-- Every call of the five services keeps to its lifecycle, whatever its arguments and whatever
the exchanger answers, or stops the program: a submission where the tree of one of its documents
leaves the exponent range, before any event, and any call where the exchanger answers nothing,
without an error, to preparing the request (before any event) or to sending it (after the request
was announced built and sent). -/
theorem request_lifecycle (cl : Client) (ex : Exchanger Id) (did rid : String) :
    (∀ ruc, Keeps ex .rucLookup rid (fun _ => False) (cl.lookupRuc ex did rid ruc)
      (·.map (·.outcome))) ∧
    (∀ doc, Keeps ex .documentReception rid (DocumentOverflows cl doc)
      (cl.submitDocument ex did rid doc) (·.2.map (·.outcome))) ∧
    (∀ docs, Keeps ex .lotReception rid (LotOverflows cl docs) (cl.submitLot ex did rid docs)
      (·.2.map (·.outcome))) ∧
    (∀ number, Keeps ex .lotQuery rid (fun _ => False) (cl.queryLot ex did rid number)
      (·.map (·.outcome))) ∧
    ∀ cdc, Keeps ex .documentQuery rid (fun _ => False) (cl.queryDocument ex did rid cdc)
      (·.map (·.outcome)) :=
  ⟨lookupRuc_keeps cl ex did rid, submitDocument_keeps cl ex did rid, submitLot_keeps cl ex did rid,
    queryLot_keeps cl ex did rid, queryDocument_keeps cl ex did rid⟩

/-- Every assembler reaches the tree of the document whose totals leave the exponent range, and
stops there. -/
theorem assembler_document_overflowDocument (a : Assembly.Assembler) :
    a.document (some Invoice.overflowDocument) = .error (.halted (.product (-2147483649))) := by
  have hu : Invoice.overflowDocument.state = .unsigned := rfl
  simp [Assembly.Assembler.document, Assembly.Assembler.sign, hu,
    Invoice.overflowDocument_elementChecked, Except.mapError, bind, Except.bind]

/-- A client with an assembler stops the program on submitting that document, before any
event. -/
theorem submitDocument_overflowDocument {cl : Client} {a : Assembly.Assembler}
    (ha : cl.assembler = some a) (ex : Exchanger Id) (did rid : String) :
    Runs (cl.submitDocument ex did rid (some Invoice.overflowDocument))
      (.error (.overflow (.product (-2147483649)))) [] := by
  unfold Client.submitDocument
  simp only [Option.isNone_some, Bool.false_eq_true, if_false, ha,
    assembler_document_overflowDocument]
  exact Runs.halt _

/-- The client of the published test address, with the published paths and the sample signer,
stops the program on submitting the accepted document whose totals leave the exponent range, as
the first call: before any event, whatever the exchanger would have answered, so that the call
ends neither with an error nor with an outcome. -/
theorem overflowDocument_submission_stops :
    Document.new Invoice.overflowInvoice = .ok Invoice.overflowDocument ∧
      ∃ sg, Security.newSigner Security.sampleCredential Security.sampleValidator = .ok sg ∧
        ∀ ex : Exchanger Id,
          Runs ((⟨"http://sifen-test.set.gov.py", defaultPaths,
              some { signer := some sg, now := Security.sampleNow }, Security.sampleNow⟩ :
              Client).submitDocument ex "000000000000001" "1" (some Invoice.overflowDocument))
            (.error (.overflow (.product (-2147483649)))) [] := by
  obtain ⟨sg, hsg, -⟩ := Security.sampleSigner_eq_ok
  exact ⟨Invoice.overflowDocument_new, sg, hsg,
    fun ex => submitDocument_overflowDocument rfl ex _ _⟩

end EInvoice.Sifen
