import EInvoice.Sifen.Basic
import EInvoice.Sifen.Metrics
import EInvoice.Invoice.Reading

/-!
# Sessions

A session works with one client on documents kept by name. It is set up from the client's
settings, a credential to sign with (or none), the level of its log (or no log), its clock,
and the dIds to hand out. The signer is made first, then the log level read, then the client
made; the first that fails ends the setup.

Each step of a session (`Step`) creates, reads or inspects a document, signs, seals or
assembles documents, or calls one of the services; a document that a step signs is kept
signed under its name. Each call is given the next dId: those handed to the session in
order, then the number of the request among all calls, written with fifteen digits. Its
identifier is that number as it is: calls need identifiers that differ, not any particular
ones.

Steps that assemble use an assembler made like the client's: the same clock, QR settings and
lot limit. A step that makes, signs or assembles the tree of a document whose totals leave the
decimal library's exponent range stops the program, and with it the session.

A name that holds no document stands for a missing document.
-/

namespace EInvoice.Sifen

open EInvoice.Clock EInvoice.Log EInvoice.Soap EInvoice.Text EInvoice.Transport
open EInvoice.Assembly EInvoice.Invoice EInvoice.Security EInvoice.Xml

/-- What a session is set up with. -/
structure SessionSettings where
  client : ClientSettings
  signing : Option (Credential × Validator)
  logLevel : Option String
  now : Time
  dids : List String

/-- Why a session cannot be set up. -/
inductive SetupError where
  | signer (e : SignerError)
  | level (e : LevelError)
  | client (e : ClientError)
  deriving Repr

instance : Reportable SetupError where
  message
    | .signer e => Reportable.message e
    | .level e => e.message
    | .client e => Reportable.message e
  kinds
    | .signer e => Reportable.kinds e
    | .level _ => []
    | .client e => Reportable.kinds e

/-- A session: the client, the signer and assembler, the clock, the documents by name, the
dIds still to hand out and the number of calls so far, and the log level when there is a
log. -/
structure Session where
  client : Client
  signer : Option Signer
  assembler : Assembler
  now : Time
  documents : List (String × Document)
  dids : List String
  calls : Nat
  logLevel : Option Level

/-- Set a session up. -/
def Session.start (s : SessionSettings) : Except SetupError Session := do
  let signer ← match s.signing with
    | none => pure none
    | some (cred, v) => some <$> (newSigner cred v).mapError SetupError.signer
  let level ← match s.logLevel with
    | none => pure none
    | some l => some <$> (parseLevel l).mapError SetupError.level
  let client ← (Client.new s.client signer s.now).mapError SetupError.client
  let plain : Assembler := { signer, qr := s.client.qr, now := s.now }
  let assembler := if s.client.maxLot > 0 then plain.withMaxLot s.client.maxLot else plain
  pure ⟨client, signer, assembler, s.now, [], s.dids, 0, level⟩

/-- One step of a session. -/
inductive Step where
  | create (name : String) (fields : Fields)
  | read (name : String) (xml : String)
  | inspect (name : String)
  | element (name : String) (signedAt : Time)
  | sealWith (name : String) (xml : Option String)
  | signDocument (name : String)
  | assembleDocument (name : String)
  | assembleLot (id : String) (names : List String)
  | lookupRuc (ruc : String)
  | submitDocument (name : String)
  | submitLot (names : List String)
  | queryLot (number : String)
  | queryDocument (cdc : String)
  | url (path : String)

/-- What a step gives. -/
inductive StepResult where
  /-- the document under a name -/
  | document (d : Option Document)
  /-- a step that failed outside a call -/
  | failure (r : Report)
  /-- a tree written out -/
  | xml (text : String)
  /-- a signed or sealed tree written out, and the document after it -/
  | tree (xml : String) (d : Option Document)
  /-- an assembled document: its identifier and signed tree, and the document after it -/
  | assembled (id xml : String) (d : Option Document)
  /-- an assembled lot or why there is none, and the documents after it -/
  | lot (r : Except Report Lot) (docs : List (Option Document))
  | ruc (r : Except RequestError RucLookup)
  | submitted (r : Except RequestError DocumentSubmission) (d : Option Document)
  | lotSubmitted (r : Except RequestError LotSubmission) (docs : List (Option Document))
  | lotQueried (r : Except RequestError LotQuery)
  | documentQueried (r : Except RequestError DocumentQuery)
  | url (text : String)

/-- A number written with at least fifteen digits. -/
def fifteenDigits (n : Nat) : String :=
  let digits := toString n
  String.ofList (List.replicate (15 - digits.length) '0') ++ digits

theorem fifteenDigits_length (n : Nat) : 15 ≤ (fifteenDigits n).length := by
  simp only [fifteenDigits, String.length_append, String.length_ofList, List.length_replicate]
  omega

example : fifteenDigits 1 = "000000000000001" := by decide

namespace Session

/-- The document under a name. -/
def find (s : Session) (name : String) : Option Document := s.documents.lookup name

/-- Keep a document under a name. -/
def put (s : Session) (name : String) (d : Document) : Session :=
  { s with documents := (name, d) :: s.documents.filter (·.1 ≠ name) }

/-- Keep the documents there are under their names. -/
def putAll (s : Session) (named : List (String × Option Document)) : Session :=
  named.foldl (fun s (n, d) => match d with
    | some d => s.put n d
    | none => s) s

/-- The dId of the next call. -/
def nextDid (s : Session) : String × Session :=
  let did := (s.dids[s.calls]?).getD (fifteenDigits (s.calls + 1))
  (did, { s with calls := s.calls + 1 })

/-- The identifier of the last call: its number among all calls. -/
def requestId (s : Session) : String := toString s.calls

/-- A step's failure outside a call. -/
def failed {ε : Type} [Reportable ε] (s : Session) (e : ε) : StepResult × Session :=
  (.failure (Report.of e), s)

/-- Seal the document under a name with a tree, when one is given and reads. -/
def sealNamed (s : Session) (name : String) (xml : Option String) : StepResult × Session :=
  match s.find name with
  | none => s.failed SigningError.noDocument
  | some d =>
    let tree : Except Report (Option Element) := match xml with
      | none => .ok none
      | some text => (readRoot text).mapError fun e => Report.plain e.message
    match tree with
    | .error r => (.failure r, s)
    | .ok t =>
      match d.sealWith t with
      | .error e => s.failed e
      | .ok d' => (.tree (t.elim "" (serialize · false)) (some d'), s.put name d')

/-- Run one step. -/
def step [Monad m] (ex : Exchanger m) (s : Session) : Step → CallM m (StepResult × Session)
  | .create name fields =>
    pure <| match Document.new fields with
      | .ok d => (.document (some d), s.put name d)
      | .error e => s.failed e
  | .read name xml =>
    pure <| match Document.read xml with
      | .ok d => (.document (some d), s.put name d)
      | .error e => s.failed e
  | .inspect name => pure (.document (s.find name), s)
  | .element name signedAt =>
    match s.find name with
    | some d =>
      match d.elementChecked signedAt with
      | .ok rde => pure (.xml (serialize rde false), s)
      | .error o => halt (.overflow o)
    | none => pure (s.failed SigningError.noDocument)
  | .sealWith name xml => pure (s.sealNamed name xml)
  | .signDocument name =>
    match s.find name, s.signer with
    | none, _ => pure (s.failed SigningError.noDocument)
    | _, none => pure (s.failed SigningError.noSigner)
    | some d, some sg =>
      match sg.signDocument s.now d with
      | .ok (d', rde) => pure (.tree (serialize rde false) (some d'), s.put name d')
      | .error (.halted o) => halt (.overflow o)
      | .error e => pure (s.failed e)
  | .assembleDocument name =>
    match s.assembler.document (s.find name) with
    | .ok (d', signed) => pure (.assembled signed.id signed.xml (some d'), s.put name d')
    | .error (.halted o) => halt (.overflow o)
    | .error e => pure (s.failed e)
  | .assembleLot id names =>
    let docs := names.map s.find
    match s.assembler.lot id docs with
    | .ok (sealed, lot) =>
      let after := sealed.map some
      pure (.lot (.ok lot) after, s.putAll (names.zip after))
    | .error (.halted o) => halt (.overflow o)
    | .error e => pure (.lot (.error (Report.of e)) docs, s)
  | .lookupRuc ruc => do
    let (did, s) := s.nextDid
    let r ← s.client.lookupRuc ex did s.requestId ruc
    pure (.ruc r, s)
  | .submitDocument name => do
    let (did, s) := s.nextDid
    let (d, r) ← s.client.submitDocument ex did s.requestId (s.find name)
    pure (.submitted r d, s.putAll [(name, d)])
  | .submitLot names => do
    let (did, s) := s.nextDid
    let (docs, r) ← s.client.submitLot ex did s.requestId (names.map s.find)
    pure (.lotSubmitted r docs, s.putAll (names.zip docs))
  | .queryLot number => do
    let (did, s) := s.nextDid
    let r ← s.client.queryLot ex did s.requestId number
    pure (.lotQueried r, s)
  | .queryDocument cdc => do
    let (did, s) := s.nextDid
    let r ← s.client.queryDocument ex did s.requestId cdc
    pure (.documentQueried r, s)
  | .url path => pure (.url (s.client.url path), s)

/-- Run steps one after another: the result of each, in order, and the session after the last.
A step that stops the program stops the run. -/
def runSteps [Monad m] (ex : Exchanger m) : Session → List Step → CallM m (List StepResult × Session)
  | s, [] => pure ([], s)
  | s, st :: rest => do
    let (r, s') ← s.step ex st
    let (rs, s'') ← runSteps ex s' rest
    pure (r :: rs, s'')

/-- The log records of a step's notes, when the session has a log. -/
def log (s : Session) (ns : List Note) : Option (List Record) := s.logLevel.map (logOf · ns)

end Session

end EInvoice.Sifen
