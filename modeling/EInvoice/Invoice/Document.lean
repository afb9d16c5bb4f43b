import EInvoice.Invoice.Tree

/-!
# Documents

A document is its fields, its identifier (the CDC), whether it is signed, and at most two
trees: the tree it was read from (for a document that came as XML) and the signed tree
(once it is signed).

* `Document.new` derives the identifier from the fields (the identifier rules come first),
  then checks the items in order: there is at least one, each has a description, a
  positive quantity, a non-negative unit price and a VAT rate of 0, 5 or 10. The currency
  defaults to `PYG` and the receiver's country to `PRY`, each only when it is empty.
* `Document.element` gives the signed tree if there is one, else the tree the document was
  read from, else the tree built from the fields.
* `Document.sealWith` records the signed tree once; a second attempt fails, and so does sealing
  without a tree.

Main statements: `sealWith_signed` (sealing moves an unsigned document to the signed state and its
element becomes the signed tree) and `sealWith_twice` (a signed document cannot be sealed again).
-/

namespace EInvoice.Invoice

open EInvoice.Xml EInvoice.Clock

/-- Whether a document carries a signature. -/
inductive SigningState where
  | unsigned
  | signed
  deriving DecidableEq, Repr, Inhabited

/-- The name of a signing state. -/
def SigningState.name : SigningState → String
  | .unsigned => "unsigned"
  | .signed => "signed"

/-- One electronic document. -/
structure Document where
  fields : Fields
  id : String
  state : SigningState := .unsigned
  parsed : Option Element := none
  signed : Option Element := none
  deriving Inhabited

/-- The first item (with its position) that breaks an item rule, as an error. -/
def itemError : Nat → List Item → Option FieldError
  | _, [] => none
  | i, it :: rest =>
    if it.description.isEmpty then some (.itemDescription i)
    else if !it.quantity.isPositive then some (.itemQuantity i)
    else if it.unitPrice.isNegative then some (.itemPrice i)
    else if !(it.vatRate = 0 ∨ it.vatRate = 5 ∨ it.vatRate = 10) then some (.itemRate i it.vatRate)
    else itemError (i + 1) rest

/-- The fields with the currency and the receiver's country filled in when empty. -/
def Fields.withDefaults (f : Fields) : Fields :=
  { f with
    currency := if f.currency.isEmpty then "PYG" else f.currency,
    receiver := { f.receiver with
      country := if f.receiver.country.isEmpty then "PRY" else f.receiver.country } }

namespace Document

/-- A new unsigned document from its fields. -/
def new (f : Fields) : Except FieldError Document := do
  let id ← f.identifier
  if f.items.isEmpty then throw .noItems
  match itemError 0 f.items with
  | some e => throw e
  | none => pure { fields := f.withDefaults, id }

/-- Whether the document was read from XML. -/
def isParsed (d : Document) : Bool := d.parsed.isSome

/-- The totals of the document. -/
def totals (d : Document) : Totals := d.fields.totals

/-- The rDE tree of the document; `signedAt` is the signing time written into a tree built
from the fields. -/
def element (d : Document) (signedAt : Time) : Element :=
  match d.signed, d.parsed with
  | some s, _ => s
  | none, some p => p
  | none, none => d.fields.toElement d.id signedAt

/-- The totals as the program computes them: it stops where the arithmetic of a line leaves the
decimal library's exponent range. -/
def totalsChecked (d : Document) : Except Decimal.Overflow Totals := d.fields.totalsChecked

/-- The rDE tree as the program makes it. Building from the fields computes every line and the
totals, so it stops where the totals do; the other trees are copies. -/
def elementChecked (d : Document) (signedAt : Time) : Except Decimal.Overflow Element :=
  match d.signed, d.parsed with
  | none, none => (fun _ => d.element signedAt) <$> d.totalsChecked
  | _, _ => .ok (d.element signedAt)

/-- Why a document cannot be sealed: it is signed already, or no signed tree was given. -/
inductive SealError where
  | alreadySigned (id : String)
  | noElement
  deriving Repr

instance : Reportable SealError where
  message
    | .alreadySigned id => "document is already signed: " ++ id
    | .noElement => "invalid document fields: nil signed element"
  kinds
    | .alreadySigned _ => [.alreadySigned]
    | .noElement => [.invalidFields]

/-- Record the signed tree and move the document to the signed state. The state is checked
before the tree. -/
def sealWith (d : Document) (signed : Option Element) : Except SealError Document :=
  match d.state, signed with
  | .signed, _ => .error (.alreadySigned d.id)
  | .unsigned, none => .error .noElement
  | .unsigned, some s => .ok { d with state := .signed, signed := some s }

theorem sealWith_signed (d : Document) (s : Element) (h : d.state = .unsigned) :
    ∃ d', d.sealWith (some s) = .ok d' ∧ d'.state = .signed ∧ ∀ t, d'.element t = s := by
  refine ⟨{ d with state := .signed, signed := some s }, ?_, rfl, fun _ => rfl⟩
  simp [sealWith, h]

theorem sealWith_twice (d : Document) (s : Option Element) (h : d.state = .signed) :
    d.sealWith s = .error (.alreadySigned d.id) := by
  simp [sealWith, h]

end Document

end EInvoice.Invoice
