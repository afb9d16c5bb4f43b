import EInvoice.Proofs.Lifecycle
import EInvoice.Sifen.Session
import Mathlib

/-!
# Metrics account for every call

The metrics of a client are counted from the events its calls announce: a call is counted in
`sifen_client_requests_total` by the event that ends it (a parsed result or a failure), a parsed
result with a code is also counted in `sifen_client_result_codes_total`, and the sizes of the
request built and of the response received are added to `sifen_client_bytes_total`.

A call either returns or stops the program (`CallEnd`): it stops when the exchanger answers
nothing, before any event or after the request was built and sent, and when the tree of a document
it submits leaves the exponent range, before any event. A call that stopped is counted in no
state; only the size of the request it built, if it built one, is added.

The proof has three layers. The counters of a list of events are, series by series, the sum of
what each event adds (`counter_ofEvents`). What the events of one call add is a function of how
the call ended (`callAdds`), on each of the six ways a run of a request ends (`RunEnds.accounted`).
The events of the steps of a session are those of each step in turn, a step that calls no service
announces none, and a step that stops the program ends the run (`runSteps_accounted`). So after
any steps, whatever the exchanger answers, each counter is a count or a sum over how the calls
ended (`metrics_account`): those of the steps' results when the run returns, and those of the
steps before a stop with at most one stopped call. A session that submits a document whose
totals leave the exponent range stops there with no events at all
(`overflowSubmission_uncounted`).
-/

namespace EInvoice.Sifen

open EInvoice.Transport EInvoice.Text EInvoice.Soap EInvoice.Invoice

/-! ## The series -/

/-- The series counting the calls of an operation that ended in a state. -/
def requestsSeries (op : Operation) (st : Stage) : Series :=
  ⟨"sifen_client_requests_total", [("operation", op.name), ("state", st.name)]⟩

/-- The series counting the results of an operation with a code. -/
def codesSeries (op : Operation) (code : String) : Series :=
  ⟨"sifen_client_result_codes_total", [("operation", op.name), ("code", code)]⟩

/-- The series adding up the bytes of an operation in a direction (`sent` or `received`). -/
def bytesSeries (op : Operation) (direction : String) : Series :=
  ⟨"sifen_client_bytes_total", [("operation", op.name), ("direction", direction)]⟩

/-- The name of the one series that holds no counter. -/
def durationName : String := "sifen_client_exchange_duration_seconds"

/-- The value of a counter series: zero while nothing was counted in it. -/
def Metrics.counter (m : Metrics) (s : Series) : Nat :=
  match m.find? (·.1 = s) with
  | some (_, .counter n) => n
  | _ => 0

theorem Operation.name_injective : Function.Injective Operation.name := by
  intro a b h
  cases a <;> cases b <;> simp_all [Operation.name]

theorem Stage.name_injective : Function.Injective Stage.name := by
  intro a b h
  cases a <;> cases b <;> simp_all [Stage.name]

section Series

variable {op op' : Operation} {st st' : Stage} {a b : String}

@[simp] theorem requestsSeries_inj : requestsSeries op st = requestsSeries op' st' ↔ op = op' ∧ st = st' := by
  simp [requestsSeries, Operation.name_injective.eq_iff, Stage.name_injective.eq_iff]

@[simp] theorem codesSeries_inj : codesSeries op a = codesSeries op' b ↔ op = op' ∧ a = b := by
  simp [codesSeries, Operation.name_injective.eq_iff]

@[simp] theorem bytesSeries_inj : bytesSeries op a = bytesSeries op' b ↔ op = op' ∧ a = b := by
  simp [bytesSeries, Operation.name_injective.eq_iff]

@[simp] theorem requestsSeries_ne_codesSeries : requestsSeries op st ≠ codesSeries op' a := by
  simp [requestsSeries, codesSeries]

@[simp] theorem requestsSeries_ne_bytesSeries : requestsSeries op st ≠ bytesSeries op' a := by
  simp [requestsSeries, bytesSeries]

@[simp] theorem codesSeries_ne_requestsSeries : codesSeries op a ≠ requestsSeries op' st :=
  requestsSeries_ne_codesSeries.symm

@[simp] theorem codesSeries_ne_bytesSeries : codesSeries op a ≠ bytesSeries op' b := by
  simp [codesSeries, bytesSeries]

@[simp] theorem bytesSeries_ne_requestsSeries : bytesSeries op a ≠ requestsSeries op' st :=
  requestsSeries_ne_bytesSeries.symm

@[simp] theorem bytesSeries_ne_codesSeries : bytesSeries op a ≠ codesSeries op' b :=
  codesSeries_ne_bytesSeries.symm

theorem requestsSeries_name : (requestsSeries op st).name ≠ durationName := by
  simp [requestsSeries, durationName]

theorem codesSeries_name : (codesSeries op a).name ≠ durationName := by
  simp [codesSeries, durationName]

theorem bytesSeries_name : (bytesSeries op a).name ≠ durationName := by
  simp [bytesSeries, durationName]

end Series

/-! ## What an event adds -/

/-- An amount added to one series: `n` on the series `t`, nothing on any other. -/
def Series.single (t : Series) (n : Nat) (s : Series) : Nat := if s = t then n else 0

@[simp] theorem Series.single_self (t : Series) (n : Nat) : t.single n t = n := if_pos rfl

theorem Series.single_of_ne {t s : Series} (h : s ≠ t) (n : Nat) : t.single n s = 0 := if_neg h

/-- What an event adds to a series: its size to the bytes of its operation in its direction, and
one call to the series of its final state, and of its code when it has one. -/
def Event.adds (e : Event) (s : Series) : Nat :=
  match e.kind with
  | .requestBuilt => (bytesSeries e.operation "sent").single e.bytes s
  | .requestSent => 0
  | .responseReceived => (bytesSeries e.operation "received").single e.bytes s
  | .parseResult =>
    (requestsSeries e.operation e.state).single 1 s +
      if e.code.isEmpty then 0 else (codesSeries e.operation e.code).single 1 s
  | .requestFailed => (requestsSeries e.operation e.state).single 1 s

/-- Metrics whose series all hold counters, except the durations. -/
def Metrics.Counters (m : Metrics) : Prop :=
  ∀ p ∈ m, p.1.name ≠ durationName → ∃ n, p.2 = .counter n

/-- Updating the entries of one series keeps the series of every entry, so a lookup finds the
updated form of the entry it found before. -/
theorem find?_map_update (m : Metrics) (s' s : Series) (add : Sample → Sample) :
    (m.map fun (x : Series × Sample) => if x.1 = s' then (x.1, add x.2) else (x.1, x.2)).find?
        (·.1 = s) =
      (m.find? (·.1 = s)).map fun x => if x.1 = s' then (x.1, add x.2) else (x.1, x.2) := by
  rw [List.find?_map]
  congr 2
  funext p
  by_cases h : p.1 = s' <;> simp [h]

/-- Adding to a series changes what a lookup of that series finds, and nothing else. -/
theorem find?_bump (m : Metrics) (s' : Series) (start : Sample) (add : Sample → Sample) (s : Series) :
    (m.bump s' start add).find? (·.1 = s) =
      if s' = s then some (s, add (((m.find? (·.1 = s)).map (·.2)).getD start))
      else m.find? (·.1 = s) := by
  unfold Metrics.bump
  split_ifs with hany hs hs
  · -- the series is there: the first entry of `s` is the one updated
    subst hs
    rw [find?_map_update]
    obtain ⟨x, hx⟩ : ∃ x, (s', x) ∈ m := by simpa using hany
    cases hf : m.find? (·.1 = s') with
    | none => exact absurd (List.find?_eq_none.1 hf _ hx) (by simp)
    | some p =>
      obtain ⟨q, v⟩ := p
      have hqs : q = s' := by simpa using List.find?_some hf
      subst hqs
      simp
  · rw [find?_map_update]
    cases hf : m.find? (·.1 = s) with
    | none => rfl
    | some p =>
      have hps : p.1 = s := by simpa using List.find?_some hf
      simp [hps, Ne.symm hs]
  · -- a new series is added at the end
    subst hs
    have hall : ∀ x, (s', x) ∉ m := by simpa using hany
    have hnone : m.find? (·.1 = s') = none := by
      rw [List.find?_eq_none]
      rintro ⟨q, v⟩ hq hqs
      have hqs' : q = s' := by simpa using hqs
      exact hall v (hqs' ▸ hq)
    simp [List.find?_append, hnone]
  · simp [List.find?_append, hs]

/-- The sample a lookup finds for a counter series is its counter. -/
theorem sample_eq_counter {m : Metrics} (hm : m.Counters) {s : Series} (hs : s.name ≠ durationName) :
    ((m.find? (·.1 = s)).map (·.2)).getD (.counter 0) = .counter (m.counter s) := by
  unfold Metrics.counter
  cases hf : m.find? (·.1 = s) with
  | none => rfl
  | some p =>
    have hps : p.1 = s := by simpa using List.find?_some hf
    obtain ⟨n, hn⟩ := hm p (List.mem_of_find?_eq_some hf) (hps ▸ hs)
    obtain ⟨q, v⟩ := p
    simp only at hn
    simp [hn]

theorem Metrics.Counters.bump {m : Metrics} (hm : m.Counters) {s' : Series} {start : Sample}
    {add : Sample → Sample}
    (hadd : s'.name ≠ durationName → (∃ n, add start = .counter n) ∧ ∀ k, ∃ n, add (.counter k) = .counter n) :
    (m.bump s' start add).Counters := by
  intro p hp hname
  unfold Metrics.bump at hp
  split_ifs at hp
  · obtain ⟨q, hq, rfl⟩ := List.mem_map.1 hp
    by_cases h : q.1 = s'
    · simp only [h, if_true] at hname ⊢
      obtain ⟨k, hk⟩ := hm q hq (h ▸ hname)
      rw [hk]
      exact (hadd hname).2 k
    · simp only [h, if_false] at hname ⊢
      exact hm q hq hname
  · rcases List.mem_append.1 hp with hp | hp
    · exact hm p hp hname
    · simp only [List.mem_singleton] at hp
      subst hp
      exact (hadd hname).1

theorem Metrics.Counters.count {m : Metrics} (hm : m.Counters) (s : Series) (n : Nat) : (m.count s n).Counters :=
  hm.bump fun _ => ⟨⟨n, by simp⟩, fun k => ⟨k + n, rfl⟩⟩

theorem Metrics.Counters.observeDuration {m : Metrics} (hm : m.Counters) {s : Series}
    (hs : s.name = durationName) : (m.observeDuration s).Counters :=
  hm.bump fun h => absurd hs h

/-- Counting adds to the series counted in. -/
theorem counter_count {m : Metrics} (hm : m.Counters) {s : Series} (hs : s.name ≠ durationName)
    (s' : Series) (n : Nat) : (m.count s' n).counter s = m.counter s + s'.single n s := by
  unfold Metrics.count
  rw [Metrics.counter, find?_bump]
  by_cases h : s = s'
  · rw [if_pos h.symm, sample_eq_counter hm hs, h]
    simp
  · rw [if_neg (Ne.symm h), Series.single_of_ne h]
    rfl

/-- Observing a duration changes no counter. -/
theorem counter_observeDuration (m : Metrics) {s s' : Series} (hs : s.name ≠ durationName)
    (hs' : s'.name = durationName) : (m.observeDuration s').counter s = m.counter s := by
  have hne : s' ≠ s := fun h => hs (h ▸ hs')
  unfold Metrics.observeDuration
  rw [Metrics.counter, find?_bump, if_neg hne]
  rfl

theorem Metrics.Counters.observe {m : Metrics} (hm : m.Counters) (e : Event) : (m.observe e).Counters := by
  unfold Metrics.observe
  split
  · exact hm.count _ _
  · exact (hm.count _ _).observeDuration rfl
  · dsimp only
    split
    · exact hm.count _ _
    · exact (hm.count _ _).count _ _
  · exact hm.count _ _
  · exact hm

/-- One event adds to each counter what `Event.adds` says. -/
theorem counter_observe {m : Metrics} (hm : m.Counters) {s : Series} (hs : s.name ≠ durationName)
    (e : Event) : (m.observe e).counter s = m.counter s + e.adds s := by
  unfold Metrics.observe Event.adds
  split <;> rename_i hk <;> rw [hk]
  · rw [counter_count hm hs]
    rfl
  · rw [counter_observeDuration _ hs rfl, counter_count hm hs]
    rfl
  · dsimp only
    split <;> rename_i hc
    · rw [counter_count hm hs]
      simp only [Nat.add_zero]
      rfl
    · rw [counter_count (hm.count _ _) hs, counter_count hm hs]
      simp only [Nat.add_assoc]
      rfl
  · rw [counter_count hm hs]
    rfl
  · simp

/-! ## A list of events -/

theorem ofEvents_append_singleton (es : List Event) (e : Event) :
    Metrics.ofEvents (es ++ [e]) = (Metrics.ofEvents es).observe e := by
  simp [Metrics.ofEvents, List.foldl_append]

theorem counters_ofEvents (es : List Event) : (Metrics.ofEvents es).Counters := by
  induction es using List.reverseRecOn with
  | nil => intro p hp; simp [Metrics.ofEvents] at hp
  | append_singleton es e ih => rw [ofEvents_append_singleton]; exact ih.observe e

/-- Every counter of the metrics of events is the sum of what the events add to it. -/
theorem counter_ofEvents (es : List Event) {s : Series} (hs : s.name ≠ durationName) :
    (Metrics.ofEvents es).counter s = (es.map (·.adds s)).sum := by
  induction es using List.reverseRecOn with
  | nil => rfl
  | append_singleton es e ih =>
    rw [ofEvents_append_singleton, counter_observe (counters_ofEvents es) hs, ih]
    simp

example : Metrics.ofEvents [] = [] := rfl

/-! ## What a call adds -/

/-- The state a call ended in: failed, or the state of its outcome. -/
def endState : Except RequestError Outcome → Stage
  | .error _ => .failed
  | .ok o => o.state

/-- The code of a completed outcome. -/
def completedCode : Except RequestError Outcome → Option String
  | .error _ => none
  | .ok o => if o.state = .completed then some o.code else none

/-- The payload of the request a call built, when it built one. -/
def builtRequest : Except RequestError Outcome → Option String
  | .error err => err.request
  | .ok o => some o.request

/-- The response a call received, when it received one. -/
def receivedResponse : Except RequestError Outcome → Option Bytes
  | .error err => err.response
  | .ok o => some o.response

section Views

variable (err : RequestError) (o : Outcome)

@[simp] theorem endState_error : endState (.error err) = .failed := rfl
@[simp] theorem endState_ok : endState (.ok o) = o.state := rfl
@[simp] theorem completedCode_error : completedCode (.error err) = none := rfl
@[simp] theorem completedCode_ok :
    completedCode (.ok o) = if o.state = .completed then some o.code else none := rfl
@[simp] theorem builtRequest_error : builtRequest (.error err) = err.request := rfl
@[simp] theorem builtRequest_ok : builtRequest (.ok o) = some o.request := rfl
@[simp] theorem receivedResponse_error : receivedResponse (.error err) = err.response := rfl
@[simp] theorem receivedResponse_ok : receivedResponse (.ok o) = some o.response := rfl

end Views

/-- How a call ended, as its events show it: it returned `r`, or it stopped the program, after
building the request whose payload it names when it built one. -/
inductive CallEnd where
  | returned (r : Except RequestError Outcome)
  | stopped (request : Option String)

namespace CallEnd

/-- The state a call ended in, when it returned. -/
def state : CallEnd → Option Stage
  | .returned r => some (endState r)
  | .stopped _ => none

/-- Whether a call returned. -/
def ended : CallEnd → Bool
  | .returned _ => true
  | .stopped _ => false

/-- The code of a call that returned a completed outcome. -/
def code : CallEnd → Option String
  | .returned r => completedCode r
  | .stopped _ => none

/-- The payload of the request a call built. -/
def request : CallEnd → Option String
  | .returned r => builtRequest r
  | .stopped p => p

/-- The response a call received: only one that returned received one. -/
def response : CallEnd → Option Bytes
  | .returned r => receivedResponse r
  | .stopped _ => none

variable (r : Except RequestError Outcome) (p : Option String)

@[simp] theorem state_returned : (returned r).state = some (endState r) := rfl
@[simp] theorem state_stopped : (stopped p).state = none := rfl
@[simp] theorem ended_returned : (returned r).ended = true := rfl
@[simp] theorem ended_stopped : (stopped p).ended = false := rfl
@[simp] theorem code_returned : (returned r).code = completedCode r := rfl
@[simp] theorem code_stopped : (stopped p).code = none := rfl
@[simp] theorem request_returned : (returned r).request = builtRequest r := rfl
@[simp] theorem request_stopped : (stopped p).request = p := rfl
@[simp] theorem response_returned : (returned r).response = receivedResponse r := rfl
@[simp] theorem response_stopped : (stopped p).response = none := rfl

/-- A call has a final state exactly when it returned. -/
theorem state_isSome (e : CallEnd) : e.state.isSome = e.ended := by
  cases e <;> rfl

end CallEnd

/-- What a call of an operation that ended as `e` adds to a series: one call in the state it
ended in and one result with its code if it completed, when it returned, and the sizes of the
request it built and of the response it received. -/
def callAdds (op : Operation) (e : CallEnd) (s : Series) : Nat :=
  e.state.elim 0 (fun st => (requestsSeries op st).single 1 s) +
    e.code.elim 0 (fun code => (codesSeries op code).single 1 s) +
    e.request.elim 0 (fun p => (bytesSeries op "sent").single (encode p).length s) +
    e.response.elim 0 (fun raw => (bytesSeries op "received").single raw.length s)

section CallAdds

variable (op op' : Operation) (e : CallEnd)

theorem callAdds_requests (st : Stage) :
    callAdds op e (requestsSeries op' st) = if op = op' ∧ e.state = some st then 1 else 0 := by
  unfold callAdds
  cases e.state <;> cases e.code <;> cases e.request <;> cases e.response <;>
    simp [Series.single, eq_comm]

theorem callAdds_codes (code : String) :
    callAdds op e (codesSeries op' code) = if op = op' ∧ e.code = some code then 1 else 0 := by
  unfold callAdds
  cases e.state <;> cases e.code <;> cases e.request <;> cases e.response <;>
    simp [Series.single, eq_comm]

theorem callAdds_sent :
    callAdds op e (bytesSeries op' "sent") =
      if op = op' then e.request.elim 0 (fun p => (encode p).length) else 0 := by
  unfold callAdds
  cases e.state <;> cases e.code <;> cases e.request <;> cases e.response <;>
    simp [Series.single, eq_comm]

theorem callAdds_received :
    callAdds op e (bytesSeries op' "received") =
      if op = op' then e.response.elim 0 List.length else 0 := by
  unfold callAdds
  cases e.state <;> cases e.code <;> cases e.request <;> cases e.response <;>
    simp [Series.single, eq_comm]

end CallAdds

/-! ## The events of calls -/

/-- What the events `es` of some calls add up to, each call an operation with how it ended: to
each series the sum of what the calls add, and every call that returned ended in one of the three
final states. -/
structure Accounted (calls : List (Operation × CallEnd)) (es : List Event) : Prop where
  adds : ∀ s, (es.map (·.adds s)).sum = (calls.map fun c => callAdds c.1 c.2 s).sum
  ends : ∀ c ∈ calls, ∀ st, c.2.state = some st → st ∈ [Stage.completed, .rejected, .failed]

theorem Accounted.nil : Accounted [] [] := ⟨fun _ => rfl, fun _ h => nomatch h⟩

theorem Accounted.append {calls calls' : List (Operation × CallEnd)} {es es' : List Event}
    (h : Accounted calls es) (h' : Accounted calls' es') : Accounted (calls ++ calls') (es ++ es') where
  adds s := by simp [h.adds, h'.adds]
  ends c hc := (List.mem_append.1 hc).elim (h.ends c) (h'.ends c)

/-- The calls left by a stop of the program: none, or one call that stopped. -/
def Stopping (stop : List (Operation × CallEnd)) : Prop :=
  stop = [] ∨ ∃ op p, stop = [(op, .stopped p)]

/-- A computation whose events account for calls: when it returns `a`, for the calls `done a`;
when it stops the program, for calls that `stops` allows. -/
def AccountsFor (x : CallM Id α) (done : α → List (Operation × CallEnd))
    (stops : List (Operation × CallEnd) → Prop) : Prop :=
  ∃ r new, Runs x r new ∧ (∀ a, r = .ok a → Accounted (done a) (events new)) ∧
    ∀ h, r = .error h → ∃ stop, stops stop ∧ Accounted stop (events new)

section AccountsFor

variable {x : CallM Id α} {done : α → List (Operation × CallEnd)}
  {stops : List (Operation × CallEnd) → Prop}

theorem AccountsFor.of_ok {a : α} {new : List Note} (hx : Runs x (.ok a) new)
    (h : Accounted (done a) (events new)) : AccountsFor x done stops :=
  ⟨_, new, hx, by rintro _ ⟨⟩; exact h, by rintro _ ⟨⟩⟩

/-- Passing on what a computation returned keeps the calls it accounts for, and a stop that one
set of calls allows is allowed by a larger one. -/
theorem AccountsFor.pass {done' : β → List (Operation × CallEnd)}
    {stops' : List (Operation × CallEnd) → Prop} {k : α → β} (hx : AccountsFor x done stops)
    (hk : ∀ a, done' (k a) = done a) (hs : ∀ stop, stops stop → stops' stop) :
    AccountsFor (x >>= fun a => Pure.pure (k a)) done' stops' := by
  obtain ⟨r, new, hrun, hok, hstop⟩ := hx
  rcases r with h | a
  · refine ⟨_, new, hrun.bind_halt, by rintro _ ⟨⟩, ?_⟩
    rintro _ ⟨⟩
    obtain ⟨stop, hst, hacc⟩ := hstop h rfl
    exact ⟨stop, hs stop hst, hacc⟩
  · exact .of_ok (hrun.bind (Runs.pure _)) (by simpa [hk] using hok a rfl)

/-- A log record kept before a computation announces no event. -/
theorem AccountsFor.after_record (r : Log.Record) (hx : AccountsFor x done stops) :
    AccountsFor (note (.record r) >>= fun _ => x) done stops := by
  obtain ⟨r', new, hrun, hok, hstop⟩ := hx
  exact ⟨r', [.record r] ++ new, (Runs.note _).bind hrun, by simpa using hok, by simpa using hstop⟩

/-- A stop that leaves no call announces nothing. -/
theorem AccountsFor.halt (h : Halt) (hs : stops []) : AccountsFor (halt h : CallM Id α) done stops :=
  ⟨_, [], Runs.halt _, by rintro _ ⟨⟩, fun _ _ => ⟨[], hs, Accounted.nil⟩⟩

end AccountsFor

/-- The calls of one operation that a call of it accounts for: itself, as it returned or as it
stopped. -/
def CallAccounted (op : Operation) (x : CallM Id α) (view : α → Except RequestError Outcome) :
    Prop :=
  AccountsFor x (fun a => [(op, .returned (view a))]) fun stop => ∃ p, stop = [(op, .stopped p)]

/-! ## One call -/

/-- A call that stops the program before it builds a request accounts for itself as stopped,
adding nothing. -/
theorem CallAccounted.halt (op : Operation) (h : Halt) {view : α → Except RequestError Outcome} :
    CallAccounted op (halt h : CallM Id α) view :=
  ⟨_, [], Runs.halt _, by rintro _ ⟨⟩,
    fun _ _ => ⟨[(op, .stopped none)], ⟨none, rfl⟩, fun s => by simp [callAdds], by simp⟩⟩

theorem fail_accounted (cl : Client) (c : Call) (stage : Stage) (cause : Report) :
    CallAccounted c.operation (cl.fail c stage cause none none) .error := by
  refine .of_ok (Runs.fail cl c stage cause none none) ⟨fun s => ?_, by simp⟩
  simp [Event.adds, callAdds, Call.failedEvent, Call.failure]

/-- Each way a run of a request ends accounts for its call: the size of a request built, the size
of a response received, and, when the run returns, one call in its final state and one result
with its code when it completed. -/
theorem RunEnds.accounted {cl : Client} {ex : Exchanger Id} {c : Call} {body : Payload}
    {reader : ResultReader α} {r : Except Halt (Except RequestError (Outcome × Option α))}
    {es : List Event} (h : RunEnds cl ex c body reader r es) :
    (∀ a, r = .ok a → Accounted [(c.operation, .returned (a.map (·.1)))] es) ∧
      ∀ h, r = .error h → ∃ p, Accounted [(c.operation, .stopped p)] es := by
  cases h with
  | unbuilt hp =>
    refine ⟨fun a ha => ?_, by rintro _ ⟨⟩⟩
    cases ha
    refine ⟨fun s => ?_, by simp [Except.map]⟩
    simp [Event.adds, callAdds, Call.failedEvent, Call.failure, Except.map]
  | noRequest hp =>
    exact ⟨by rintro _ ⟨⟩, fun _ _ => ⟨none, fun s => by simp [callAdds], by simp⟩⟩
  | unanswered hp hs =>
    -- built and sent: the request's size is counted, and one failure
    refine ⟨fun a ha => ?_, by rintro _ ⟨⟩⟩
    cases ha
    refine ⟨fun s => ?_, by simp [Except.map]⟩
    simp [Event.adds, callAdds, Call.builtEvent, Call.sentEvent, Call.failedEvent, Call.failure,
      Call.routed, Except.map]
    omega
  | @noResponse req records hp hs =>
    -- built and sent, then stopped: only the request's size is counted
    refine ⟨by rintro _ ⟨⟩, fun _ _ => ⟨some req.payload, fun s => ?_, by simp⟩⟩
    simp [Event.adds, callAdds, Call.builtEvent, Call.sentEvent, Call.routed]
  | unreadable hp hs henv =>
    -- the response's size is counted too, though it does not read
    refine ⟨fun a ha => ?_, by rintro _ ⟨⟩⟩
    cases ha
    refine ⟨fun s => ?_, by simp [Except.map]⟩
    simp [Event.adds, callAdds, Call.builtEvent, Call.sentEvent, Call.receivedEvent,
      Call.failedEvent, Call.failure, Call.routed, Except.map]
    omega
  | @parsed req records res env code message rest hp hs henv hx =>
    refine ⟨fun a ha => ?_, by rintro _ ⟨⟩⟩
    cases ha
    refine ⟨fun s => ?_, ?_⟩
    · by_cases hc : code = "" <;>
        simp [Event.adds, callAdds, Call.builtEvent, Call.sentEvent, Call.receivedEvent,
          Call.parsedEvent, Call.outcome, Call.stateOf, Call.routed, Except.map, hc] <;> omega
    · by_cases hc : code = "" <;> simp [Call.outcome, Call.stateOf, Except.map, hc]

theorem run_accounted (cl : Client) (ex : Exchanger Id) (c : Call) (body : Payload)
    (reader : ResultReader α) :
    CallAccounted c.operation (cl.run ex c body reader) (·.map (·.1)) := by
  obtain ⟨r, new, hrun, hends⟩ := Client.run_ends cl ex c body reader
  obtain ⟨hok, hstop⟩ := hends.accounted
  refine ⟨r, new, hrun, hok, fun h hh => ?_⟩
  obtain ⟨p, hacc⟩ := hstop h hh
  exact ⟨_, ⟨p, rfl⟩, hacc⟩

/-! ## The services -/

/-- A call of one operation stops leaving at most that call. -/
theorem stopping_of_call {op : Operation} {stop : List (Operation × CallEnd)}
    (h : ∃ p, stop = [(op, .stopped p)]) : Stopping stop := by
  obtain ⟨p, rfl⟩ := h
  exact .inr ⟨op, p, rfl⟩

theorem lookupRuc_accounted (cl : Client) (ex : Exchanger Id) (did rid ruc : String) :
    CallAccounted .rucLookup (cl.lookupRuc ex did rid ruc) (·.map (·.outcome)) := by
  unfold Client.lookupRuc
  split
  · exact (fail_accounted cl _ _ _).pass (fun _ => rfl) fun _ h => h
  · exact (run_accounted cl ex _ _ _).pass (fun r => by cases r <;> rfl) fun _ h => h

theorem submitDocument_accounted (cl : Client) (ex : Exchanger Id) (did rid : String)
    (doc : Option Document) :
    CallAccounted .documentReception (cl.submitDocument ex did rid doc) (·.2.map (·.outcome)) := by
  unfold Client.submitDocument
  dsimp only
  split
  · exact (fail_accounted cl _ _ _).pass (fun _ => rfl) fun _ h => h
  · split
    · split
      · -- the document's tree stops the program before any event
        exact CallAccounted.halt _ _
      · exact (fail_accounted cl _ _ _).pass (fun _ => rfl) fun _ h => h
      · exact (run_accounted cl ex _ _ _).pass
          (fun r => by rcases r with _ | ⟨o, _ | p⟩ <;> rfl) fun _ h => h
    · exact (fail_accounted cl _ _ _).pass (fun _ => rfl) fun _ h => h

theorem submitLot_accounted (cl : Client) (ex : Exchanger Id) (did rid : String)
    (docs : List (Option Document)) :
    CallAccounted .lotReception (cl.submitLot ex did rid docs) (·.2.map (·.outcome)) := by
  unfold Client.submitLot
  dsimp only
  split
  · split
    · -- the tree of one of the documents stops the program before any event
      exact CallAccounted.halt _ _
    · exact (fail_accounted cl _ _ _).pass (fun _ => rfl) fun _ h => h
    · refine AccountsFor.after_record _ ?_
      split
      · exact (fail_accounted cl _ _ _).pass (fun _ => rfl) fun _ h => h
      · exact (run_accounted cl ex _ _ _).pass (fun r => by cases r <;> rfl) fun _ h => h
  · exact (fail_accounted cl _ _ _).pass (fun _ => rfl) fun _ h => h

theorem queryLot_accounted (cl : Client) (ex : Exchanger Id) (did rid number : String) :
    CallAccounted .lotQuery (cl.queryLot ex did rid number) (·.map (·.outcome)) := by
  unfold Client.queryLot
  split
  · exact (fail_accounted cl _ _ _).pass (fun _ => rfl) fun _ h => h
  · exact (run_accounted cl ex _ _ _).pass (fun r => by cases r <;> rfl) fun _ h => h

theorem queryDocument_accounted (cl : Client) (ex : Exchanger Id) (did rid cdc : String) :
    CallAccounted .documentQuery (cl.queryDocument ex did rid cdc) (·.map (·.outcome)) := by
  unfold Client.queryDocument
  split
  · exact (fail_accounted cl _ _ _).pass (fun _ => rfl) fun _ h => h
  · exact (run_accounted cl ex _ _ _).pass (fun r => by cases r <;> rfl) fun _ h => h

/-! ## Sessions -/

/-- The calls a step made, each an operation with how it ended: one for a step that calls a
service, none for any other. -/
def StepResult.calls : StepResult → List (Operation × CallEnd)
  | .ruc r => [(.rucLookup, .returned (r.map (·.outcome)))]
  | .submitted r _ => [(.documentReception, .returned (r.map (·.outcome)))]
  | .lotSubmitted r _ => [(.lotReception, .returned (r.map (·.outcome)))]
  | .lotQueried r => [(.lotQuery, .returned (r.map (·.outcome)))]
  | .documentQueried r => [(.documentQuery, .returned (r.map (·.outcome)))]
  | _ => []

/-- Sealing a document calls no service. -/
theorem sealNamed_calls (s : Session) (name : String) (xml : Option String) :
    (s.sealNamed name xml).1.calls = [] := by
  unfold Session.sealNamed
  dsimp only
  repeat' split
  all_goals rfl

/-- A step that calls no service announces no event. -/
theorem AccountsFor.quiet (rs : StepResult × Session) (hr : rs.1.calls = []) :
    AccountsFor (Pure.pure rs : CallM Id _) (·.1.calls) Stopping :=
  .of_ok (Runs.pure _) (by simpa [hr] using Accounted.nil)

theorem step_accounted (ex : Exchanger Id) (s : Session) (st : Step) :
    AccountsFor (s.step ex st) (·.1.calls) Stopping := by
  -- the steps on documents return without a call or stop the program on a document's tree
  have hstop : ∀ h, AccountsFor (halt h : CallM Id (StepResult × Session)) (·.1.calls) Stopping :=
    fun h => .halt h (.inl rfl)
  cases st with
  | create name fields => exact .quiet _ (by split <;> rfl)
  | read name xml => exact .quiet _ (by split <;> rfl)
  | inspect name => exact .quiet _ (by rfl)
  | element name signedAt =>
    simp only [Session.step]
    repeat' split
    all_goals first | exact hstop _ | exact .quiet _ (by rfl)
  | sealWith name xml => exact .quiet _ (sealNamed_calls s name xml)
  | signDocument name =>
    simp only [Session.step]
    repeat' split
    all_goals first | exact hstop _ | exact .quiet _ (by rfl)
  | assembleDocument name =>
    simp only [Session.step]
    repeat' split
    all_goals first | exact hstop _ | exact .quiet _ (by rfl)
  | assembleLot id names =>
    simp only [Session.step]
    repeat' split
    all_goals first | exact hstop _ | exact .quiet _ (by rfl)
  | lookupRuc ruc =>
    exact (lookupRuc_accounted _ ex _ _ ruc).pass (fun _ => rfl) fun _ => stopping_of_call
  | submitDocument name =>
    exact (submitDocument_accounted _ ex _ _ _).pass (fun _ => rfl) fun _ => stopping_of_call
  | submitLot names =>
    exact (submitLot_accounted _ ex _ _ _).pass (fun _ => rfl) fun _ => stopping_of_call
  | queryLot number =>
    exact (queryLot_accounted _ ex _ _ number).pass (fun _ => rfl) fun _ => stopping_of_call
  | queryDocument cdc =>
    exact (queryDocument_accounted _ ex _ _ cdc).pass (fun _ => rfl) fun _ => stopping_of_call
  | url path => exact .quiet _ (by rfl)

/-- The events of a run of steps add up what the calls of its steps add. When the run returns,
these are the calls of its results; when a step stops the program, they are the calls of the
results of the steps before it, which returned, and at most one call of the step that stopped. -/
theorem runSteps_accounted (ex : Exchanger Id) (steps : List Step) (s : Session) :
    ∃ r new calls, Runs (s.runSteps ex steps) r new ∧ Accounted calls (events new) ∧
      ((∃ rs s', r = .ok (rs, s') ∧ calls = rs.flatMap StepResult.calls) ∨
        ∃ h pre st post rs s' new' stop, r = .error h ∧ steps = pre ++ st :: post ∧
          Runs (s.runSteps ex pre) (.ok (rs, s')) new' ∧ (∃ new'', Runs (s'.step ex st) (.error h) new'') ∧
          calls = rs.flatMap StepResult.calls ++ stop ∧ Stopping stop) := by
  induction steps generalizing s with
  | nil => exact ⟨_, [], [], Runs.pure _, Accounted.nil, .inl ⟨[], s, rfl, rfl⟩⟩
  | cons st rest ih =>
    obtain ⟨r₁, new₁, hstep, hok₁, hstop₁⟩ := step_accounted ex s st
    rcases r₁ with h | ⟨r, s₁⟩
    · -- the first step stops the program: nothing ran before it
      obtain ⟨stop, hst, hacc⟩ := hstop₁ h rfl
      refine ⟨_, new₁, stop, hstep.bind_halt, hacc, .inr ⟨h, [], st, rest, [], s, [], stop, rfl, rfl,
        Runs.pure _, ⟨new₁, hstep⟩, rfl, hst⟩⟩
    have hacc₁ := hok₁ _ rfl
    obtain ⟨r₂, new₂, calls₂, hrest, hacc₂, hends⟩ := ih s₁
    rcases hends with ⟨rs, s', rfl, rfl⟩ | ⟨h, pre, st', post, rs, s', new', stop, rfl, rfl, hpre, hst', rfl, hstop⟩
    · refine ⟨_, new₁ ++ (new₂ ++ []), r.calls ++ rs.flatMap StepResult.calls,
        hstep.bind (hrest.bind (Runs.pure _)), ?_, .inl ⟨r :: rs, s', rfl, by simp⟩⟩
      simpa using hacc₁.append hacc₂
    · -- a later step stops the program: the steps that ran are this one and those before it
      refine ⟨_, new₁ ++ new₂, r.calls ++ (rs.flatMap StepResult.calls ++ stop),
        hstep.bind hrest.bind_halt, by simpa using hacc₁.append hacc₂,
        .inr ⟨h, st :: pre, st', post, r :: rs, s', new₁ ++ (new' ++ []), stop, rfl, rfl,
          hstep.bind (hpre.bind (Runs.pure _)), hst', by simp, hstop⟩⟩

/-! ## What the metrics say -/

/-- What metrics `m` say of some calls, each an operation with how it ended: the calls of each
operation that returned are counted by the state they ended in, and these counts add up to the
number of such calls; the completed outcomes are counted by their code; and the bytes of each
operation add up the sizes of the requests its calls built, those of calls that stopped the
program included, and of the responses they received, those that did not read included. -/
structure Accounts (calls : List (Operation × CallEnd)) (m : Metrics) : Prop where
  requests : ∀ op st,
    m.counter (requestsSeries op st) = calls.countP fun c => c.1 = op ∧ c.2.state = some st
  ended : ∀ op, ([Stage.completed, .rejected, .failed].map fun st => m.counter (requestsSeries op st)).sum =
    calls.countP fun c => c.1 = op ∧ c.2.ended
  codes : ∀ op code,
    m.counter (codesSeries op code) = calls.countP fun c => c.1 = op ∧ c.2.code = some code
  sent : ∀ op, m.counter (bytesSeries op "sent") =
    (((calls.filter (·.1 = op)).filterMap (·.2.request)).map fun p => (encode p).length).sum
  received : ∀ op, m.counter (bytesSeries op "received") =
    (((calls.filter (·.1 = op)).filterMap (·.2.response)).map List.length).sum

section Sums

variable {α β : Type} (l : List α)

theorem sum_map_ite_one (p : α → Prop) [DecidablePred p] :
    (l.map fun x => if p x then 1 else 0).sum = l.countP fun x => p x := by
  induction l with
  | nil => rfl
  | cons x l ih => by_cases h : p x <;> simp [h, ih, Nat.add_comm]

theorem sum_map_ite_elim (q : α → Prop) [DecidablePred q] (f : α → Option β) (g : β → Nat) :
    (l.map fun x => if q x then (f x).elim 0 g else 0).sum =
      (((l.filter fun x => q x).filterMap f).map g).sum := by
  induction l with
  | nil => rfl
  | cons x l ih =>
    by_cases h : q x
    · cases hf : f x <;> simp [h, hf, ih]
    · simp [h, ih]

end Sums

/-- Calls that each ended in one of the three final states are counted once among them. -/
theorem countP_final_states {calls : List (Operation × CallEnd)}
    (hends : ∀ c ∈ calls, ∀ st, c.2.state = some st → st ∈ [Stage.completed, .rejected, .failed])
    (op : Operation) :
    ([Stage.completed, .rejected, .failed].map fun st =>
      calls.countP fun c => c.1 = op ∧ c.2.state = some st).sum =
        calls.countP fun c => c.1 = op ∧ c.2.ended := by
  induction calls with
  | nil => rfl
  | cons c calls ih =>
    have hrest := ih fun c' hc' => hends c' (List.mem_cons_of_mem c hc')
    simp only [List.map_cons, List.map_nil, List.sum_cons, List.sum_nil] at hrest ⊢
    rcases hst : c.2.state with _ | st
    · -- a call that stopped the program is counted in no state
      have hended : c.2.ended = false := by rw [← CallEnd.state_isSome, hst]; rfl
      simp [hst, hended] at hrest ⊢
      omega
    · have hended : c.2.ended = true := by rw [← CallEnd.state_isSome, hst]; rfl
      obtain rfl | rfl | rfl : st = .completed ∨ st = .rejected ∨ st = .failed := by
        simpa using hends c List.mem_cons_self st hst
      all_goals by_cases hop : c.1 = op <;> simp [hop, hst, hended] at hrest ⊢ <;> omega

/-- Metrics that add what events add, for calls each of which that returned ended in a final
state, count them as the calls say. -/
theorem Accounts.of_accounted {calls : List (Operation × CallEnd)} {es : List Event}
    (h : Accounted calls es) : Accounts calls (Metrics.ofEvents es) := by
  -- every counter is what the calls add to it
  have hcount : ∀ s, s.name ≠ durationName →
      (Metrics.ofEvents es).counter s = (calls.map fun c => callAdds c.1 c.2 s).sum := fun s hs => by
    rw [counter_ofEvents es hs, h.adds]
  have hrequests : ∀ op st, (Metrics.ofEvents es).counter (requestsSeries op st) =
      calls.countP fun c => c.1 = op ∧ c.2.state = some st := fun op st => by
    simp only [hcount _ requestsSeries_name, callAdds_requests, sum_map_ite_one]
  refine ⟨hrequests, fun op => ?_, fun op code => ?_, fun op => ?_, fun op => ?_⟩
  · simp only [hrequests]
    exact countP_final_states h.ends op
  · simp only [hcount _ codesSeries_name, callAdds_codes, sum_map_ite_one]
  · simp only [hcount _ bytesSeries_name, callAdds_sent, sum_map_ite_elim]
  · simp only [hcount _ bytesSeries_name, callAdds_received, sum_map_ite_elim]

/-- After any steps of a session, whatever its exchanger answers, the metrics account for its
calls. When the run returns, these are the calls of its results: each is counted once, in the
state it ended in, with its code when it completed, and with the sizes of the request it built and
the response it received. When a step stops the program, they are the calls of the steps that
ran before it, counted so, and at most one call of the step that stopped, which is counted in no
state and only with the size of the request it built, if it built one. -/
theorem metrics_account (ex : Exchanger Id) (s : Session) (steps : List Step) :
    ∃ calls, Accounts calls (Metrics.ofEvents (events ((s.runSteps ex steps).run.run []).2)) ∧
      ((∃ rs s', ((s.runSteps ex steps).run.run []).1 = .ok (rs, s') ∧
          calls = rs.flatMap StepResult.calls) ∨
        ∃ h pre st post rs s' stop, ((s.runSteps ex steps).run.run []).1 = .error h ∧
          steps = pre ++ st :: post ∧ ((s.runSteps ex pre).run.run []).1 = .ok (rs, s') ∧
          ((s'.step ex st).run.run []).1 = .error h ∧
          calls = rs.flatMap StepResult.calls ++ stop ∧ Stopping stop) := by
  obtain ⟨r, new, calls, hrun, hacc, hends⟩ := runSteps_accounted ex steps s
  refine ⟨calls, by simpa [hrun []] using Accounts.of_accounted hacc, ?_⟩
  rw [hrun []]
  rcases hends with ⟨rs, s', rfl, hcalls⟩ |
    ⟨h, pre, st, post, rs, s', new', stop, rfl, hsteps, hpre, ⟨new'', hst⟩, hcalls, hstop⟩
  · exact .inl ⟨rs, s', rfl, hcalls⟩
  · exact .inr ⟨h, pre, st, post, rs, s', stop, rfl, hsteps, by rw [hpre []], by rw [hst []],
      hcalls, hstop⟩

/-- A session whose client has an assembler, on creating the accepted document whose totals leave
the exponent range and submitting it, stops the program at the submission before any event. -/
theorem runSteps_overflowSubmission {s : Session} {a : Assembly.Assembler}
    (ha : s.client.assembler = some a) (ex : Exchanger Id) :
    Runs (s.runSteps ex [.create "d" Invoice.overflowInvoice, .submitDocument "d"])
      (.error (.overflow (.product (-2147483649)))) [] := by
  have hcreate : Runs (s.step ex (.create "d" Invoice.overflowInvoice))
      (.ok (.document (some Invoice.overflowDocument), s.put "d" Invoice.overflowDocument)) [] := by
    simp only [Session.step, Invoice.overflowDocument_new]
    exact Runs.pure _
  -- the document is found under its name, and its submission stops the program
  have hsubmit : Runs ((s.put "d" Invoice.overflowDocument).step ex (.submitDocument "d"))
      (.error (.overflow (.product (-2147483649)))) [] := by
    simp only [Session.step]
    exact (submitDocument_overflowDocument ha ex _ _).bind_halt
  simp only [Session.runSteps]
  -- the run after the first step is the second step followed by the run of no steps
  exact hcreate.bind hsubmit.bind_halt.bind_halt

/-- The session of the published test address, with the published paths, the sample signer and no
identifiers given, creates the accepted document whose totals leave the exponent range and submits
it: the program stops at the submission, before any event, so there are no metrics of the call,
whatever the exchanger would have answered. -/
theorem overflowSubmission_uncounted :
    Document.new Invoice.overflowInvoice = .ok Invoice.overflowDocument ∧
      ∃ sg, Security.newSigner Security.sampleCredential Security.sampleValidator = .ok sg ∧
        ∀ ex : Exchanger Id,
          Runs ((⟨⟨"http://sifen-test.set.gov.py", defaultPaths,
              some { signer := some sg, now := Security.sampleNow }, Security.sampleNow⟩,
              some sg, { signer := some sg, now := Security.sampleNow }, Security.sampleNow,
              [], [], 0, none⟩ : Session).runSteps ex
            [.create "d" Invoice.overflowInvoice, .submitDocument "d"])
            (.error (.overflow (.product (-2147483649)))) [] := by
  obtain ⟨sg, hsg, -⟩ := Security.sampleSigner_eq_ok
  exact ⟨Invoice.overflowDocument_new, sg, hsg, fun ex => runSteps_overflowSubmission rfl ex⟩

end EInvoice.Sifen
