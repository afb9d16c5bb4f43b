import EInvoice.Invoice.Tree
import EInvoice.Xml.Reader

/-!
# Lots

A lot (`rLoteDE`) gathers up to fifty signed documents (`rDE`) for one submission. Reading a
lot takes the `rDE` children of its root, in order; the root's local name must be
`rLoteDE`, whatever its prefix, and a lot without documents is refused.
-/

namespace EInvoice.Invoice

open EInvoice.Xml

/-- The most documents a lot may hold. -/
def maxLotDocuments : Nat := 50

/-- Where the schema of a lot is found. -/
def lotSchemaLocation : String := sifenNamespace ++ " rLoteDE_v150.xsd"

/-- Why a text is not a lot. -/
inductive LotError where
  | malformed (e : ReadError)
  | notLot
  | empty
  deriving Repr

instance : Reportable LotError where
  message
    | .malformed e => "invalid document fields: " ++ e.message
    | .notLot => "invalid document fields: root element is not rLoteDE"
    | .empty => "invalid document fields: lot has no documents"
  kinds
    | .empty => [.emptyLot, .invalidFields]
    | _ => [.invalidFields]

/-- The documents of a lot, in order. -/
def readLot (text : String) : Except LotError (List Element) := do
  let root ← (readRoot text).mapError LotError.malformed
  match root with
  | some r =>
    if r.tag ≠ "rLoteDE" then .error .notLot
    else
      match r.selectElements "rDE" with
      | [] => .error .empty
      | ds => pure ds
  | none => .error .notLot

/-- The identifier of a document element: the `Id` of its `DE` child, `""` without one. -/
def documentId (rde : Element) : String :=
  match rde.selectElement "DE" with
  | some de => de.attrValue "Id" ""
  | none => ""

end EInvoice.Invoice
