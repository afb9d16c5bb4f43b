import EInvoice.Xml.Writer
import EInvoice.Invoice.Tree

/-!
# SOAP envelopes

A request travels in a SOAP envelope of one of two dialects, SOAP 1.2 or SOAP 1.1, which
differ in the envelope's namespace. Any other dialect number is treated as SOAP 1.2 and only
named differently.

The envelope is written `<?xml …?><soap:Envelope xmlns:soap="…"><soap:Header></soap:Header>
<soap:Body>…</soap:Body></soap:Envelope>` (without the line break). The body is one of the
requests of the e-invoicing service, each an element in its namespace with a `dId` and one
value, or markup given as it is, or a bare text. Values are escaped with every special
character replaced (`Escape.numeric`); markup given as it is goes in unchanged.
-/

namespace EInvoice.Soap

open EInvoice.Xml EInvoice.Text

/-- A SOAP dialect. -/
inductive Version where
  | soap12
  | soap11
  /-- a dialect number without a name, treated as SOAP 1.2 -/
  | other (n : Int)
  deriving DecidableEq, Repr, Inhabited

/-- The SOAP 1.1 envelope namespace. -/
def soap11Namespace : String := "http://schemas.xmlsoap.org/soap/envelope/"
/-- The SOAP 1.2 envelope namespace. -/
def soap12Namespace : String := "http://www.w3.org/2003/05/soap-envelope"

/-- The dialect with a given number: 0 is SOAP 1.2, 1 is SOAP 1.1. -/
def Version.ofCode (n : Int) : Version :=
  if n = 0 then .soap12 else if n = 1 then .soap11 else .other n

/-- The envelope namespace of a dialect. -/
def Version.namespace : Version → String
  | .soap11 => soap11Namespace
  | _ => soap12Namespace

/-- The name of a dialect. -/
def Version.name : Version → String
  | .soap12 => "1.2"
  | .soap11 => "1.1"
  | .other n => "Version(" ++ showInt n ++ ")"

/-- What a request carries in its body. -/
inductive Payload where
  /-- a taxpayer lookup by RUC -/
  | rucQuery (id ruc : String)
  /-- one signed document, given as markup -/
  | documentSubmission (id xde : String)
  /-- a lot, given as its encoded text -/
  | lotSubmission (id xde : String)
  /-- the processing result of a lot -/
  | lotQuery (id protocol : String)
  /-- a document by its identifier -/
  | documentQuery (id cdc : String)
  /-- markup given as it is -/
  | raw (markup : String)
  /-- a bare text -/
  | text (value : String)
  /-- a value that has no markup form, named by its type -/
  | unsupported (typeName : String)
  deriving Repr

/-- Why a request cannot be built. -/
inductive BuildError where
  | emptyBody
  | unsupported (typeName : String)
  deriving Repr

instance : Reportable BuildError where
  message
    | .emptyBody => "empty SOAP body"
    | .unsupported t => "failed to marshal SOAP body: xml: unsupported type: " ++ t
  kinds _ := []

/-- An element holding an escaped value. -/
def valueElement (tag value : String) : String :=
  "<" ++ tag ++ ">" ++ escape .numeric value ++ "</" ++ tag ++ ">"

/-- A request element in the e-invoicing namespace around its parts. -/
def requestElement (tag : String) (parts : List String) : String :=
  "<" ++ tag ++ " xmlns=\"" ++ escape .numeric Invoice.sifenNamespace ++ "\">" ++ String.join parts ++
    "</" ++ tag ++ ">"

/-- The markup of a payload. -/
def Payload.markup : Payload → Except BuildError String
  | .rucQuery id ruc => .ok (requestElement "rEnviConsRUC" [valueElement "dId" id, valueElement "dRUCCons" ruc])
  | .documentSubmission id xde =>
    .ok (requestElement "rEnviDe" [valueElement "dId" id, "<xDE>" ++ xde ++ "</xDE>"])
  | .lotSubmission id xde => .ok (requestElement "rEnvioLote" [valueElement "dId" id, valueElement "xDE" xde])
  | .lotQuery id p =>
    .ok (requestElement "rEnviConsLoteDe" [valueElement "dId" id, valueElement "dProtConsLote" p])
  | .documentQuery id cdc =>
    .ok (requestElement "rEnviConsDeRequest" [valueElement "dId" id, valueElement "dCDC" cdc])
  | .raw m => .ok ("<RawXML>" ++ m ++ "</RawXML>")
  | .text v => .ok (valueElement "string" v)
  | .unsupported t => .error (.unsupported t)

/-- The text of a request: declaration and envelope around the payload. -/
def buildEnvelope (v : Version) (body : Option Payload) : Except BuildError String := do
  let some p := body | .error .emptyBody
  let inner ← p.markup
  pure (declaration ++ "<soap:Envelope xmlns:soap=\"" ++ escape .numeric v.namespace ++ "\">" ++
    "<soap:Header></soap:Header><soap:Body>" ++ inner ++ "</soap:Body></soap:Envelope>")

end EInvoice.Soap
