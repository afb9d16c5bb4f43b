import EInvoice.Security.Signature
import EInvoice.Assembly.Qr
import EInvoice.Invoice.Document
import EInvoice.Invoice.Lot

/-!
# Assembling documents and lots

An assembler signs documents with its signer at the time of its clock, appends the QR link when
it has QR settings, and seals each document with the tree it signed. The tree of a document built
from its fields is made with its totals, so a document whose totals leave the decimal library's
exponent range stops the program where its tree is made (`SigningError.halted`): that is no error
the assembler returns, and callers stop with it.

* `Assembler.document` signs and seals one document and writes its signed tree.
* `Assembler.lot` first checks the whole list: it is not empty, not longer than the
  assembler's limit, and holds no missing, signed or repeated document (by identifier), the
  first fault in list order winning. It then signs every document; a document that cannot be
  signed stops the lot, with its position and identifier, before any document is sealed.
  Only when all are signed is the lot written (`rLoteDE`, with the declaration) and every
  document sealed.

A signed document is never signed again: `Signer.signDocument` and the assembler refuse it
before the signer sees it.

Main statements: `lot_nil` (an empty lot is refused) and `document_signed` (a signed document
is refused and nothing changes).
-/

namespace EInvoice.Assembly

open EInvoice.Xml EInvoice.Invoice EInvoice.Security EInvoice.Clock

/-- Why a document cannot be signed. -/
inductive SigningError where
  | noDocument
  | noSigner
  | alreadySigned (id : String)
  | signer (e : SignerError)
  | qr (e : QrError)
  /-- the program stops: the document's totals leave the exponent range -/
  | halted (o : Decimal.Overflow)
  deriving Repr

instance : Reportable SigningError where
  message
    | .halted o => o.message
    | .noDocument => "invalid document fields: nil document"
    | .noSigner => "invalid signing credential: no signer configured"
    | .alreadySigned id => "document is already signed: " ++ id
    | .signer e => Reportable.message e
    | .qr e => Reportable.message e
  kinds
    | .halted _ => []
    | .noDocument => [.invalidFields]
    | .noSigner => [.signingCredential]
    | .alreadySigned _ => [.alreadySigned]
    | .signer e => Reportable.kinds e
    | .qr e => Reportable.kinds e

/-- Why a lot cannot be assembled. -/
inductive AssemblyError where
  | signing (e : SigningError)
  | emptyLot
  | tooLarge (count max : Nat)
  | missingInLot
  | duplicate (id : String)
  | inDocument (position : Nat) (id : String) (e : SigningError)
  /-- the program stops: a document's totals leave the exponent range -/
  | halted (o : Decimal.Overflow)
  deriving Repr

instance : Reportable AssemblyError where
  message
    | .halted o => o.message
    | .signing e => Reportable.message e
    | .emptyLot => "invalid document fields: lot has no documents"
    | .tooLarge n m => "lot exceeds maximum number of documents: " ++ toString n ++
        " documents, maximum " ++ toString m
    | .missingInLot => "invalid document fields: nil document in lot"
    | .duplicate id => "invalid document fields: duplicate document " ++ id
    | .inDocument i id e => "document " ++ toString i ++ " (" ++ id ++ "): " ++ Reportable.message e
  kinds
    | .halted _ => []
    | .signing e => Reportable.kinds e
    | .emptyLot => [.invalidFields, .emptyLot]
    | .tooLarge _ _ => [.lotTooLarge]
    | .missingInLot | .duplicate _ => [.invalidFields]
    | .inDocument _ _ e => Reportable.kinds e

/-- An assembler: the signer, the QR settings if links are made, the largest lot and the
clock. -/
structure Assembler where
  signer : Option Signer
  qr : Option QrSettings := none
  maxLot : Nat := maxLotDocuments
  now : Time

/-- The assembler with a lot limit, which only a value from 1 to the largest lot changes. -/
def Assembler.withMaxLot (a : Assembler) (n : Int) : Assembler :=
  if 0 < n ∧ n ≤ maxLotDocuments then { a with maxLot := n.toNat } else a

/-- A signed document: its identifier, its tree and the tree written out. -/
structure SignedDocument where
  id : String
  element : Element
  xml : String

/-- An assembled lot: its identifier, the identifiers of its documents in order, its tree and
the text it is sent as. -/
structure Lot where
  id : String
  documents : List String
  element : Element
  text : String

/-- Sign a document's tree for assembly, and add the QR link when the assembler makes them. The
tree is made before the signer is looked at. -/
def Assembler.sign (a : Assembler) (doc : Option Document) : Except SigningError Element := do
  let some d := doc | .error .noDocument
  if d.state = .signed then .error (.alreadySigned d.id)
  let rde ← (d.elementChecked a.now).mapError .halted
  let some s := a.signer | .error .noSigner
  let signed ← (s.sign rde).mapError .signer
  match a.qr with
  | none => pure signed
  | some q => Prod.fst <$> (appendQr q signed).mapError .qr

/-- Seal a document that was checked to be unsigned. -/
def sealChecked (d : Document) (rde : Element) : Except SigningError Document :=
  (d.sealWith (some rde)).mapError fun _ => .alreadySigned d.id

/-- Sign and seal one document; also the signed document written out. -/
def Assembler.document (a : Assembler) (doc : Option Document) :
    Except SigningError (Document × SignedDocument) := do
  let rde ← a.sign doc
  let some d := doc | .error .noDocument
  let d ← sealChecked d rde
  pure (d, ⟨d.id, rde, serialize rde false⟩)

/-- The first fault of a list of documents for a lot, in list order: a missing document, a
signed one, or one whose identifier came before. -/
def lotFault : List String → List (Option Document) → Option AssemblyError
  | _, [] => none
  | _, none :: _ => some .missingInLot
  | seen, some d :: rest =>
    if d.state = .signed then some (.signing (.alreadySigned d.id))
    else if seen.contains d.id then some (.duplicate d.id)
    else lotFault (d.id :: seen) rest

/-- The root of a lot holding signed documents. -/
def lotElement (signed : List Element) : Element :=
  { tag := "rLoteDE",
    attrs := [⟨"", "xmlns", sifenNamespace⟩, ⟨"xmlns", "xsi", xsiNamespace⟩,
      ⟨"xsi", "schemaLocation", lotSchemaLocation⟩],
    children := leaf "dVerFor" formatVersion :: signed.map Element.toNode }

/-- A document of a lot that cannot be signed, at its position and with its identifier; a
document that stops the program stops the lot. -/
def AssemblyError.ofDocument (position : Nat) (id : String) : SigningError → AssemblyError
  | .halted o => .halted o
  | e => .inDocument position id e

/-- Sign the documents of a lot in order, stopping at the first that cannot be signed. -/
def signAll (a : Assembler) : Nat → List Document → Except AssemblyError (List Element)
  | _, [] => pure []
  | i, d :: rest => do
    let rde ← (a.sign (some d)).mapError (.ofDocument i d.id)
    let more ← signAll a (i + 1) rest
    pure (rde :: more)

/-- Assemble a lot: check the list, sign every document, write the lot and seal the documents.
Also the sealed documents, in order. -/
def Assembler.lot (a : Assembler) (id : String) (docs : List (Option Document)) :
    Except AssemblyError (List Document × Lot) := do
  if docs.isEmpty then .error .emptyLot
  if docs.length > a.maxLot then .error (.tooLarge docs.length a.maxLot)
  if let some e := lotFault [] docs then .error e
  let ds := docs.filterMap fun x => x
  let signed ← signAll a 1 ds
  let root := lotElement signed
  let sealed ← (ds.zip signed).mapM fun (d, rde) => (sealChecked d rde).mapError .signing
  pure (sealed, ⟨id, ds.map (·.id), root, serialize root true⟩)

end EInvoice.Assembly

namespace EInvoice.Security

open EInvoice.Xml EInvoice.Invoice EInvoice.Clock EInvoice.Assembly

/-- Sign a document's tree at a time and seal the document with it; a signed document is
refused first. -/
def Signer.signDocument (s : Signer) (now : Time) (d : Document) :
    Except SigningError (Document × Element) := do
  if d.state = .signed then .error (.alreadySigned d.id)
  let rde ← (d.elementChecked now).mapError .halted
  let rde ← (s.sign rde).mapError .signer
  let d ← sealChecked d rde
  pure (d, rde)

end EInvoice.Security

namespace EInvoice.Assembly

open EInvoice.Invoice

theorem lot_nil (a : Assembler) (id : String) : a.lot id [] = .error .emptyLot := rfl

theorem document_signed (a : Assembler) (d : Document) (h : d.state = .signed) :
    a.document (some d) = .error (.alreadySigned d.id) := by
  simp [Assembler.document, Assembler.sign, h]
  rfl

end EInvoice.Assembly
