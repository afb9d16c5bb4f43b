import EInvoice.Invoice.Document
import EInvoice.Xml.Reader
import EInvoice.Xml.Search
import EInvoice.Text.Blank
import EInvoice.Clock.Layout

/-!
# Reading a document from XML

A document made elsewhere comes as XML holding an `rDE` element, or a bare `DE` element
which is then wrapped into an `rDE`. It is read as follows.

1. Prefixes bound to the e-invoicing namespace are dropped from element names, with the
   declarations that bound them; the root then declares the namespace as default if it
   declares no `xmlns` yet. Prefixes are resolved on the tree as given, before any change.
2. The first `rDE` in document order is taken, else the first `DE` is wrapped. The `rDE`
   declares the e-invoicing namespace as default if it does not already.
3. Its `DE` child carries the identifier as `Id`, which must be 44 characters with a right
   check digit.
4. The identifier fields are read back from their elements (numbers in decimal with an
   optional sign; the issue date as a date-time or a date), derived again, and must give
   the identifier.
5. A document with a `Signature` element anywhere in its `rDE` is signed.

Only the identifier fields, the issuer's name, the currency and the receiver's RUC and name
are read; the document has no items.
-/

namespace EInvoice.Invoice

open EInvoice.Xml EInvoice.Text EInvoice.Clock

/-- Why an XML text is not a document. -/
inductive ReadingError where
  | malformed (e : ReadError)
  | empty
  | noDocument
  | noDE
  | badIdentifier (id : String)
  | notNumeric (id path value : String)
  | badIssueDate (id value : String)
  | fields (id : String) (e : FieldError)
  | mismatch (id derived : String)
  deriving Repr

/-- The text of a reading error. -/
def ReadingError.message : ReadingError → String
  | .malformed e => "invalid document fields: malformed XML: " ++ e.message
  | .empty => "invalid document fields: empty document"
  | .noDocument => "invalid document fields: no rDE or DE element"
  | .noDE => "invalid document fields: rDE has no DE child"
  | .badIdentifier id => "identifier checksum mismatch: " ++ quote id
  | .notNumeric id p v => "document " ++ id ++ ": invalid document fields: " ++ p ++ " " ++ quote v ++
      " is not numeric"
  | .badIssueDate id v => "document " ++ id ++ ": invalid document fields: invalid issue date " ++ quote v
  | .fields id e => "document " ++ id ++ ": invalid document fields: " ++ e.detail
  | .mismatch id d => "identifier checksum mismatch: Id " ++ id ++ ", fields give " ++ d

instance : Reportable ReadingError where
  message := ReadingError.message
  kinds
    | .badIdentifier _ | .mismatch _ _ => [.checksumMismatch]
    | _ => [.invalidFields]

/-- A whole number in decimal with an optional sign, within 64 bits. -/
def readWhole (s : String) : Option Int :=
  let (neg, ds) := match s.toList with
    | '-' :: r => (true, r)
    | '+' :: r => (false, r)
    | r => (false, r)
  if ds.isEmpty ∨ !ds.all isDigit then none
  else
    let n : Int := ds.foldl (fun n c => n * 10 + digitValue c) 0
    let v := if neg then -n else n
    if -9223372036854775808 ≤ v ∧ v ≤ 9223372036854775807 then some v else none

/-- The trimmed text of the element at a path of child names, `""` when absent. -/
def pathText (e : Element) : List String → String
  | [] => trim e.text
  | p :: ps =>
    match e.selectElement p with
    | some c => pathText c ps
    | none => ""

/-- Drop the prefixes bound to the e-invoicing namespace (see the module comment). -/
def unprefix (root : Element) : Element :=
  let bound := fun (up : List Element) (e : Element) =>
    !e.space.isEmpty && namespaceOf e up == sifenNamespace
  if !root.anyElement bound then root
  else
    let renamed := root.mapElements (fun up e => (if bound up e then "" else e.space, e.attrs)) []
    let cleaned := renamed.mapElements (fun _ e =>
      (e.space, e.attrs.filter fun a => !(a.space == "xmlns" && a.value == sifenNamespace))) []
    if (cleaned.selectAttr "xmlns").isSome then cleaned else cleaned.setAttr "xmlns" sifenNamespace

/-- An `rDE` around a bare `DE` (without its own default namespace declaration). -/
def wrapDE (de : Element) : Element :=
  { tag := "rDE",
    attrs := [⟨"", "xmlns", sifenNamespace⟩, ⟨"xmlns", "xsi", xsiNamespace⟩,
      ⟨"xsi", "schemaLocation", schemaLocation⟩],
    children := [leaf "dVerFor" formatVersion, (de.removeAttr "xmlns").toNode] }

/-- The issue date: a date-time, else a date. -/
def readIssueDate (s : String) : Option Time :=
  match readDateTime s with
  | some t => some t
  | none => readDate s

/-- The paths of the numeric identifier fields, in the order they are read. -/
def numericPaths : List (List String) :=
  [["gTimb", "iTiDE"], ["gDatGralOpe", "gEmis", "dDVEmi"], ["gTimb", "dEst"], ["gTimb", "dPunExp"],
   ["gTimb", "dNumDoc"], ["gTimb", "dNumTim"], ["gDatGralOpe", "gEmis", "iTipCont"],
   ["gOpeDE", "iTipEmi"], ["gOpeDE", "dCodSeg"]]

/-- The numbers at the given paths, or the first that is not one. -/
def readNumbers (id : String) (de : Element) : List (List String) → Except ReadingError (List Int)
  | [] => .ok []
  | p :: ps =>
    let s := pathText de p
    match readWhole s with
    | none => .error (.notNumeric id ("/".intercalate p) s)
    | some v => (v :: ·) <$> readNumbers id de ps

/-- The identifier fields written in a `DE` element. -/
def identifierFields (id : String) (de : Element) : Except ReadingError Fields := do
  let ns ← readNumbers id de numericPaths
  let n := fun i => ns.getD i 0
  let issued := pathText de ["gDatGralOpe", "dFeEmiDE"]
  match readIssueDate issued with
  | none => .error (.badIssueDate id issued)
  | some t =>
    pure {
      type := n 0, issuerDv := n 1, establishment := n 2, pointOfSale := n 3, number := n 4,
      stampNumber := n 5, taxpayerType := n 6, emissionType := n 7, securityCode := n 8,
      issuerRuc := pathText de ["gDatGralOpe", "gEmis", "dRucEm"],
      issuerName := pathText de ["gDatGralOpe", "gEmis", "dNomEmi"],
      currency := pathText de ["gDatGralOpe", "gOpeCom", "cMoneOpe"],
      receiver := {
        ruc := pathText de ["gDatGralOpe", "gDatRec", "dRucRec"],
        name := pathText de ["gDatGralOpe", "gDatRec", "dNomRec"] },
      issuedAt := t }

/-- Read a document from XML text. -/
def Document.read (text : String) : Except ReadingError Document := do
  let root ← match readRoot text with
    | .error e => .error (.malformed e)
    | .ok none => .error .empty
    | .ok (some r) => pure r
  let root := unprefix root
  let rde ← match root.find "rDE" with
    | some r => pure r
    | none =>
      match root.find "DE" with
      | some de => pure (wrapDE de)
      | none => .error .noDocument
  let rde := if (rde.selectAttr "xmlns").isSome then rde else rde.setAttr "xmlns" sifenNamespace
  let de ← match rde.selectElement "DE" with
    | some d => pure d
    | none => .error .noDE
  let id := de.attrValue "Id" ""
  if !isValidIdentifier id then .error (.badIdentifier id)
  let f ← identifierFields id de
  let derived ← f.identifier.mapError (ReadingError.fields id)
  if derived ≠ id then .error (.mismatch id derived)
  let signed := (rde.find "Signature").isSome
  pure { fields := f, id, state := if signed then .signed else .unsigned, parsed := some rde,
         signed := if signed then some rde else none }

end EInvoice.Invoice
