import EInvoice.Sifen.Lifecycle

/-!
# Metrics of calls

Metrics are counted from the events of calls:

* `sifen_client_requests_total` by operation and final state, one per call that ended
  (a parsed result or a failure);
* `sifen_client_result_codes_total` by operation and code, one per parsed result with a code;
* `sifen_client_bytes_total` by operation and direction: the size of each request built
  (`sent`) and each response received (`received`);
* `sifen_client_exchange_duration_seconds` by operation and route, one observation per
  response received (only their number is kept).

A series appears once something is counted in it, even when the amount is zero; series are
kept in the order they first appeared.
-/

namespace EInvoice.Sifen

/-- A series: the name of a metric and its labels. -/
structure Series where
  name : String
  labels : List (String × String)
  deriving Repr, DecidableEq

/-- What a series holds: a counter's value, or the number of observations of a duration. -/
inductive Sample where
  | counter (value : Nat)
  | observations (count : Nat)
  deriving Repr, DecidableEq

/-- The series counted so far. -/
abbrev Metrics := List (Series × Sample)

/-- Add to a series, starting it at `start` when it is new. -/
def Metrics.bump (m : Metrics) (s : Series) (start : Sample) (add : Sample → Sample) : Metrics :=
  if m.any (·.1 = s) then m.map fun (s', v) => if s' = s then (s', add v) else (s', v)
  else m ++ [(s, add start)]

/-- Add an amount to a counter. -/
def Metrics.count (m : Metrics) (s : Series) (n : Nat) : Metrics :=
  m.bump s (.counter 0) fun
    | .counter v => .counter (v + n)
    | other => other

/-- Add an observation to a duration. -/
def Metrics.observeDuration (m : Metrics) (s : Series) : Metrics :=
  m.bump s (.observations 0) fun
    | .observations c => .observations (c + 1)
    | other => other

/-- Count one event. -/
def Metrics.observe (m : Metrics) (e : Event) : Metrics :=
  let op := ("operation", e.operation.name)
  match e.kind with
  | .requestBuilt => m.count ⟨"sifen_client_bytes_total", [op, ("direction", "sent")]⟩ e.bytes
  | .responseReceived =>
    (m.count ⟨"sifen_client_bytes_total", [op, ("direction", "received")]⟩ e.bytes).observeDuration
      ⟨"sifen_client_exchange_duration_seconds", [op, ("route", e.route)]⟩
  | .parseResult =>
    let m := m.count ⟨"sifen_client_requests_total", [op, ("state", e.state.name)]⟩ 1
    if e.code.isEmpty then m else m.count ⟨"sifen_client_result_codes_total", [op, ("code", e.code)]⟩ 1
  | .requestFailed => m.count ⟨"sifen_client_requests_total", [op, ("state", e.state.name)]⟩ 1
  | .requestSent => m

/-- The metrics of a list of events. -/
def Metrics.ofEvents (es : List Event) : Metrics := es.foldl Metrics.observe []

end EInvoice.Sifen
