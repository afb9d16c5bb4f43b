import EInvoice.Invoice.Identifier
import EInvoice.Clock.Layout
import EInvoice.Decimal.Basic
import EInvoice.Text.Digits

/-!
# Document fields and the identifier they determine

`Fields` holds what a document is built from. Its first group (type, issuer RUC and DV,
establishment, point of sale, number, taxpayer type, issue date, emission type, security
code) determines the document identifier; the rest is content.

`validate` checks the first group, field by field in a fixed order, and reports the first
field out of range. `identifier` writes the 43 digits of the identifier and appends their
check digit:

`type (2) · RUC padded with zeros (8) · DV (1) · establishment (3) · point of sale (3) ·
number (7) · taxpayer type (1) · issue date yyyymmdd (8) · emission type (1) ·
security code (9) · check digit (1)`.

Main statement: `identifier_eq` (an identifier is its base followed by the check digit
of the base).
-/

namespace EInvoice.Invoice

open EInvoice.Text EInvoice.Clock

/-- The buyer of the operation. -/
structure Receiver where
  ruc : String := ""
  dv : Int := 0
  name : String := ""
  taxpayerType : Int := 0
  country : String := ""
  deriving Repr, Inhabited

/-- One line of the document. `vatRate` is 0 (exempt), 5 or 10. -/
structure Item where
  code : String := ""
  description : String := ""
  quantity : Decimal := 0
  unitPrice : Decimal := 0
  vatRate : Int := 0
  deriving Repr, Inhabited

/-- Everything a document is built from. -/
structure Fields where
  type : Int := 0
  issuerRuc : String := ""
  issuerDv : Int := 0
  establishment : Int := 0
  pointOfSale : Int := 0
  number : Int := 0
  taxpayerType : Int := 0
  issuedAt : Time := Time.zero
  emissionType : Int := 0
  securityCode : Int := 0
  stampNumber : Int := 0
  stampStart : Time := Time.zero
  issuerName : String := ""
  issuerAddress : String := ""
  issuerPhone : String := ""
  issuerEmail : String := ""
  activityCode : String := ""
  activityName : String := ""
  currency : String := ""
  receiver : Receiver := {}
  items : List Item := []
  deriving Repr, Inhabited

/-- The kinds of document, by their code. -/
def typeName (code : Int) : String :=
  match code with
  | 1 => "Factura electrónica"
  | 4 => "Autofactura electrónica"
  | 5 => "Nota de crédito electrónica"
  | 6 => "Nota de débito electrónica"
  | 7 => "Nota de remisión electrónica"
  | _ => "Desconocido"

/-- Whether a document type code is known. -/
def isKnownType (code : Int) : Bool := code = 1 ∨ code = 4 ∨ code = 5 ∨ code = 6 ∨ code = 7

/-- The name of an emission type: `2` is contingency, anything else normal. -/
def emissionName (code : Int) : String := if code = 2 then "Contingencia" else "Normal"

/-- Why fields cannot make a document. -/
inductive FieldError where
  | digits (e : DigitError)
  | documentType (code : Int)
  | rucLength (ruc : String)
  | dvMismatch (dv : Int) (ruc : String) (expected : Nat)
  | establishment (n : Int)
  | pointOfSale (n : Int)
  | documentNumber (n : Int)
  | taxpayerType (n : Int)
  | issueDateMissing
  | issueYear (year : Int)
  | emissionType (n : Int)
  | securityCode (n : Int)
  | noItems
  | itemDescription (i : Nat)
  | itemQuantity (i : Nat)
  | itemPrice (i : Nat)
  | itemRate (i : Nat) (rate : Int)
  deriving Repr

namespace FieldError

/-- What is wrong, in words. -/
def detail : FieldError → String
  | digits e => e.detail
  | documentType c => "document type " ++ showInt c
  | rucLength r => "issuer RUC " ++ quote r ++ " must have 1 to 8 digits"
  | dvMismatch dv r e =>
    "issuer DV " ++ showInt dv ++ " does not match RUC " ++ r ++ " (expected " ++ showInt e ++ ")"
  | establishment n => "establishment " ++ showInt n ++ " out of range 1..999"
  | pointOfSale n => "point of sale " ++ showInt n ++ " out of range 1..999"
  | documentNumber n => "document number " ++ showInt n ++ " out of range 1..9999999"
  | taxpayerType n => "taxpayer type " ++ showInt n
  | issueDateMissing => "issue date is required"
  | issueYear y => "issue year " ++ showInt y ++ " out of range 2000..2099"
  | emissionType n => "emission type " ++ showInt n
  | securityCode n => "security code " ++ showInt n ++ " out of range 1..999999999"
  | noItems => "at least one item is required"
  | itemDescription i => "item " ++ showInt i ++ " has no description"
  | itemQuantity i => "item " ++ showInt i ++ " quantity must be positive"
  | itemPrice i => "item " ++ showInt i ++ " unit price is negative"
  | itemRate i r => "item " ++ showInt i ++ " VAT rate " ++ showInt r

end FieldError

instance : Reportable FieldError where
  message e := "invalid document fields: " ++ e.detail
  kinds _ := [.invalidFields]

instance : Reportable DigitError where
  message e := "invalid document fields: " ++ e.detail
  kinds _ := [.invalidFields]

/-- Succeed when `ok` holds, else fail with `e`. -/
def require (ok : Bool) (e : FieldError) : Except FieldError Unit :=
  if ok then .ok () else .error e

/-- Check the fields that determine the identifier, in order, stopping at the first
that is out of range. -/
def Fields.validate (f : Fields) : Except FieldError Unit := do
  require (isKnownType f.type) (.documentType f.type)
  let size := f.issuerRuc.utf8ByteSize
  require (size ≠ 0 ∧ size ≤ 8) (.rucLength f.issuerRuc)
  let dv ← (checkDigit f.issuerRuc).mapError FieldError.digits
  require (f.issuerDv = dv) (.dvMismatch f.issuerDv f.issuerRuc dv)
  require (1 ≤ f.establishment ∧ f.establishment ≤ 999) (.establishment f.establishment)
  require (1 ≤ f.pointOfSale ∧ f.pointOfSale ≤ 999) (.pointOfSale f.pointOfSale)
  require (1 ≤ f.number ∧ f.number ≤ 9999999) (.documentNumber f.number)
  require (f.taxpayerType = 1 ∨ f.taxpayerType = 2) (.taxpayerType f.taxpayerType)
  require (!f.issuedAt.isZero) .issueDateMissing
  require (2000 ≤ f.issuedAt.year ∧ f.issuedAt.year ≤ 2099) (.issueYear f.issuedAt.year)
  require (f.emissionType = 1 ∨ f.emissionType = 2) (.emissionType f.emissionType)
  require (1 ≤ f.securityCode ∧ f.securityCode ≤ 999999999) (.securityCode f.securityCode)

/-- The 43 digits that precede the check digit of the identifier. -/
def Fields.identifierBase (f : Fields) : String :=
  padInt 2 f.type ++ String.ofList (List.replicate (8 - f.issuerRuc.utf8ByteSize) '0') ++
    f.issuerRuc ++ showInt f.issuerDv ++ padInt 3 f.establishment ++ padInt 3 f.pointOfSale ++
    padInt 7 f.number ++ showInt f.taxpayerType ++ f.issuedAt.showCompactDate ++
    showInt f.emissionType ++ padInt 9 f.securityCode

/-- The document identifier of valid fields: the base and its check digit. -/
def Fields.identifier (f : Fields) : Except FieldError String := do
  f.validate
  let base := f.identifierBase
  let dv ← (checkDigit base).mapError FieldError.digits
  pure (base ++ showInt dv)

/-- An identifier is its base followed by the check digit of the base. -/
theorem identifier_eq (f : Fields) (cdc : String) (h : f.identifier = .ok cdc) :
    ∃ dv, checkDigit f.identifierBase = .ok dv ∧ cdc = f.identifierBase ++ showInt dv := by
  unfold Fields.identifier at h
  cases hv : f.validate with
  | error e => simp [hv] at h; cases h
  | ok u =>
    cases hd : checkDigit f.identifierBase with
    | error e => simp only [hv, hd] at h; cases h
    | ok dv =>
      refine ⟨dv, rfl, ?_⟩
      simp only [hv, hd] at h
      cases h; rfl

end EInvoice.Invoice
