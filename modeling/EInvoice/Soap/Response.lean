import EInvoice.Soap.Envelope
import EInvoice.Xml.Reader
import EInvoice.Xml.Search
import EInvoice.Text.Blank

/-!
# SOAP responses

A response is read in a given dialect: after trimming blanks, the text must be a document
whose root is an `Envelope` in the dialect's namespace, and whose first child `Body` in that
namespace is the body. When the dialect is not known, the dialects are tried in an order
chosen by which namespace the text mentions (SOAP 1.2 first, unless only SOAP 1.1 is
mentioned); the first that reads wins, and when none does, the failures of all tries are
reported together.

A response's results are the body's child elements, found by local name. A result is read
into a record by field names: a text field takes the direct character data of the last
child element of its name; a nested record takes the children of all elements of its name
together; a list takes one record per element of its name. The result element is first
written out and read back, with the namespace declarations of its ancestors copied onto
it, so that the texts are those a fresh reader sees.
-/

namespace EInvoice.Soap

open EInvoice.Xml EInvoice.Text

/-- A response envelope read in a dialect. -/
structure Envelope where
  version : Version
  root : Element
  body : Element

/-- Why a text is no envelope of a dialect. -/
inductive EnvelopeError where
  | empty
  | malformed (e : ReadError)
  | notEnvelope
  | wrongNamespace (ns : String)
  | noBody
  deriving Repr

/-- The text of an envelope error. -/
def EnvelopeError.message : EnvelopeError → String
  | .empty => "empty response"
  | .malformed e => e.message
  | .notEnvelope => "root element is not Envelope"
  | .wrongNamespace ns => "envelope namespace " ++ quote ns
  | .noBody => "envelope has no Body"

instance : Reportable EnvelopeError where
  message := EnvelopeError.message
  kinds _ := []

/-- Read a response in dialect `v`. -/
def Envelope.readAs (v : Version) (raw : String) : Except EnvelopeError Envelope := do
  let text := trim raw
  if text.isEmpty then .error .empty
  let root ← match readRoot text with
    | .error e => .error (.malformed e)
    | .ok none => .error .notEnvelope
    | .ok (some r) => pure r
  if root.tag ≠ "Envelope" then .error .notEnvelope
  let ns := namespaceOf root []
  if ns ≠ v.namespace then .error (.wrongNamespace ns)
  match root.childElements.find? (fun c => c.tag = "Body" ∧ namespaceOf c [root] = v.namespace) with
  | some body => pure ⟨v, root, body⟩
  | none => .error .noBody

/-- A response that reads in no dialect: the failure of each try, in order. -/
structure Unparseable where
  tries : List (Version × EnvelopeError)

instance : Reportable Unparseable where
  message u := "unparseable SOAP envelope: " ++
    "\n".intercalate (u.tries.map fun (v, e) => "SOAP " ++ v.name ++ ": " ++ e.message)
  kinds _ := [.unparseableEnvelope]

/-- The order in which dialects are tried for a text. -/
def dialectOrder (raw : String) : List Version :=
  if (raw.splitOn soap12Namespace).length > 1 then [.soap12, .soap11]
  else if (raw.splitOn soap11Namespace).length > 1 then [.soap11, .soap12]
  else [.soap12, .soap11]

/-- Read a response in the first dialect that fits. -/
def Envelope.read (raw : String) : Except Unparseable Envelope :=
  go (dialectOrder raw) []
where
  go : List Version → List (Version × EnvelopeError) → Except Unparseable Envelope
    | [], acc => .error ⟨acc.reverse⟩
    | v :: vs, acc =>
      match Envelope.readAs v raw with
      | .ok e => .ok e
      | .error err => go vs ((v, err) :: acc)

/-- The local names of the body's child elements. -/
def Envelope.bodyChildren (e : Envelope) : List String := e.body.childElements.map (·.tag)

/-- The first child element of the body with a local name. -/
def Envelope.result (e : Envelope) (name : String) : Option Element :=
  e.body.childElements.find? (·.tag = name)

/-- The trimmed text of the first element with a local name below the body. -/
def Envelope.text (e : Envelope) (name : String) : String :=
  match Node.findIn name e.body.children with
  | some el => trim el.text
  | none => ""

/-- All character data below a list of children: for each child element its own, then the
text that follows it. -/
def allTextIn : List Node → String
  | [] => ""
  | .elem _ _ _ c :: rest =>
    Element.leadingText c ++ allTextIn c ++ Element.trailingText rest ++ allTextIn rest
  | _ :: rest => allTextIn rest

/-- All character data of an element: its text, then for each child element its own and
the text that follows it. -/
def allText (e : Element) : String := e.text ++ allTextIn e.children

/-- Lead text of an element with a local name, trimmed. -/
def childText (e : Element) (name : String) : String :=
  match e.selectElement name with
  | some c => trim c.text
  | none => ""

/-- A SOAP fault. -/
structure Fault where
  code : String
  reason : String
  detail : String
  deriving Repr

/-- The text of a fault as an error. -/
def Fault.message (f : Fault) : String := "SOAP fault " ++ f.code ++ ": " ++ f.reason

/-- The fault the body carries, if any. -/
def Envelope.fault (e : Envelope) : Option Fault :=
  (e.result "Fault").map fun el =>
    let detailOf := fun (name : String) => match el.selectElement name with
      | some d => trim (allText d)
      | none => ""
    match e.version with
    | .soap11 => ⟨childText el "faultcode", childText el "faultstring", detailOf "detail"⟩
    | _ =>
      ⟨(el.selectElement "Code").elim "" (childText · "Value"),
       (el.selectElement "Reason").elim "" (childText · "Text"), detailOf "Detail"⟩

/-! ## Reading results into records -/

/-- The character data directly inside an element (comments and child elements skipped). -/
def directText (e : Element) : String :=
  String.join (e.children.filterMap fun | .text d => some d | _ => none)

/-- The children of an element as seen by a record reader. -/
abbrev ResultNodes := List Node

/-- The child elements with a local name. -/
def named (fs : ResultNodes) (name : String) : List Element :=
  (fs.filterMap Node.element?).filter (·.tag = name)

/-- A text field: the direct character data of the last element of its name. -/
def textField (fs : ResultNodes) (name : String) : String :=
  match (named fs name).getLast? with
  | some e => directText e
  | none => ""

/-- A nested record: the children of all elements of its name, together. -/
def recordField (fs : ResultNodes) (name : String) : ResultNodes :=
  (named fs name).flatMap (·.children)

/-- The markup inside the last element of its name, as written, when there is one. -/
def markupField (fs : ResultNodes) (name : String) : Option String :=
  (named fs name).getLast?.map fun e => renderNodes Style.plainStyle e.children

/-- A taxpayer in a RUC lookup result. -/
structure Taxpayer where
  ruc : String
  name : String
  statusCode : String
  status : String
  electronicBiller : String
  deriving Repr

/-- The result of a RUC lookup. -/
structure RucResult where
  code : String
  message : String
  taxpayer : Option Taxpayer
  deriving Repr

/-- One processing message. -/
structure ProcessingMessage where
  code : String
  message : String
  deriving Repr

/-- The protocol of one processed document. -/
structure DocumentProtocol where
  cdc : String
  processedAt : String
  digestValue : String
  status : String
  protocol : String
  messages : List ProcessingMessage
  deriving Repr

/-- The result of a lot reception. -/
structure LotResult where
  processedAt : String
  code : String
  message : String
  protocol : String
  processingTime : String
  deriving Repr

/-- One document in a lot query result. -/
structure LotDocumentResult where
  cdc : String
  status : String
  protocol : String
  messages : List ProcessingMessage
  deriving Repr

/-- The result of a lot query. -/
structure LotQueryResult where
  processedAt : String
  code : String
  message : String
  documents : List LotDocumentResult
  deriving Repr

/-- The result of a document query; the content is absent when the answer carries none. -/
structure DocumentInfoResult where
  processedAt : String
  code : String
  message : String
  content : Option String
  deriving Repr

/-- The result names in a response body. -/
def rucResultName : String := "rResEnviConsRUC"
def documentResultName : String := "rRetEnviDe"
def lotResultName : String := "rResEnviLoteDe"
def lotQueryResultName : String := "rResEnviConsLoteDe"
def documentInfoResultName : String := "rEnviConsDeResponse"

def readMessages (fs : ResultNodes) : List ProcessingMessage :=
  (named fs "gResProc").map fun e => ⟨textField e.children "dCodRes", textField e.children "dMsgRes"⟩

def RucResult.ofFields (fs : ResultNodes) : RucResult :=
  let tp := recordField fs "xContRUC"
  { code := textField fs "dCodRes", message := textField fs "dMsgRes",
    taxpayer := if (named fs "xContRUC").isEmpty then none else
      some ⟨textField tp "dRUCCons", textField tp "dRazCons", textField tp "dCodEstCons",
        textField tp "dDesEstCons", textField tp "dRUCFactElec"⟩ }

def DocumentProtocol.ofFields (fs : ResultNodes) : DocumentProtocol :=
  { cdc := textField fs "id", processedAt := textField fs "dFecProc",
    digestValue := textField fs "dDigVal", status := textField fs "dEstRes",
    protocol := textField fs "dProtAut", messages := readMessages fs }

def LotResult.ofFields (fs : ResultNodes) : LotResult :=
  { processedAt := textField fs "dFecProc", code := textField fs "dCodRes",
    message := textField fs "dMsgRes", protocol := textField fs "dProtConsLote",
    processingTime := textField fs "dTpoProces" }

def LotQueryResult.ofFields (fs : ResultNodes) : LotQueryResult :=
  { processedAt := textField fs "dFecProc", code := textField fs "dCodResLot",
    message := textField fs "dMsgResLot",
    documents := (named fs "gResProcLote").map fun e =>
      ⟨textField e.children "id", textField e.children "dEstRes", textField e.children "dProtAut",
        readMessages e.children⟩ }

def DocumentInfoResult.ofFields (fs : ResultNodes) (written : ResultNodes) : DocumentInfoResult :=
  { processedAt := textField fs "dFecProc", code := textField fs "dCodRes",
    message := textField fs "dMsgRes", content := markupField written "xContenDE" }

/-- Why a result cannot be read into a record. -/
structure ResultError where
  name : String
  error : ReadError

instance : Reportable ResultError where
  message e := "failed to decode " ++ e.name ++ ": " ++ e.error.message
  kinds _ := []

/-- A result element detached from the envelope, with the namespace declarations of its
ancestors copied onto it (those it does not declare itself). -/
def Envelope.detach (e : Envelope) (el : Element) : Element :=
  [e.body, e.root].foldl (fun c p =>
    p.attrs.foldl (fun c a =>
      if a.isDeclaration ∧ (c.selectAttr a.fullKey).isNone then c.setAttr a.fullKey a.value else c) c) el

/-- The children of a result element as a fresh reader sees them, and as written. -/
def Envelope.resultFields (e : Envelope) (name : String) : Option (Except ResultError (ResultNodes × ResultNodes)) :=
  (e.result name).map fun el =>
    let c := e.detach el
    match readRoot c.renderPlain with
    | .ok (some r) => .ok (r.children, c.children)
    | .ok none => .ok ([], c.children)
    | .error err => .error ⟨name, err⟩

end EInvoice.Soap
