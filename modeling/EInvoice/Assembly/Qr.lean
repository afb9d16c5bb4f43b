import EInvoice.Security.Signature
import EInvoice.Net.Url
import EInvoice.Decimal.Basic

/-!
# QR links

A signed document carries, in `gCamFuFD/dCarQR`, the link of its QR code: the public
consultation address followed by the query

`nVersion, Id, dFeEmiDE, dRucRec | dNumIDRec, dTotGralOpe, dTotIVA, cItems, DigestValue, IdCSC`

and `cHashQR`, the SHA-256 (in lower-case hexadecimal) of that query followed by the
taxpayer's secret security code (CSC). The issue date and the digest value travel in
hexadecimal; amounts in their shortest decimal form (`0` when absent); the receiver by its
RUC, or else by its identity number (`0` when absent); the item count is the number of
`gCamItem` children of `gDtipDE`. Every value is escaped as a query component.
-/

namespace EInvoice.Assembly

open EInvoice.Text EInvoice.Xml EInvoice.Security EInvoice.Crypto

/-- The consultation address of the test environment. -/
def qrBaseTest : String := "https://ekuatia.set.gov.py/consultas-test/qr?"

/-- The consultation address of production. -/
def qrBaseProduction : String := "https://ekuatia.set.gov.py/consultas/qr?"

/-- How QR links are made: the CSC's identifier, the CSC, and the consultation address
(the test one when empty). -/
structure QrSettings where
  cscId : String
  csc : String
  baseUrl : String
  deriving Repr, DecidableEq

/-- Why a QR link cannot be made. -/
inductive QrError where
  | noCsc
  | noDE (tag : String)
  | unsigned
  deriving Repr, DecidableEq

instance : Reportable QrError where
  message
    | .noCsc => "invalid document fields: QR requires CSC and CSC id"
    | .noDE t => "invalid document fields: " ++ t ++ " has no DE child"
    | .unsigned => "invalid document fields: QR requires a signed document"
  kinds _ := [.invalidFields]

/-- A byte as two lower-case hexadecimal digits. -/
def hexPair (b : UInt8) : List Char :=
  let digit := fun (v : Nat) => if v < 10 then Char.ofNat (48 + v) else Char.ofNat (87 + v)
  [digit (b.toNat / 16), digit (b.toNat % 16)]

/-- Bytes in lower-case hexadecimal. -/
def hexLower (bs : Bytes) : String := String.ofList (bs.flatMap hexPair)

/-- An amount in its shortest decimal form; `0` when absent, as given when unreadable. -/
def amountText (s : String) : String :=
  if s.isEmpty then "0"
  else match Decimal.ofString? s with
    | some d => d.toString
    | none => s

/-- The query of a QR link before its hash. -/
def qrQuery (q : QrSettings) (de : Element) (digest : String) : String :=
  let ruc := findText de "dRucRec"
  let receiver := if !ruc.isEmpty then ("dRucRec", ruc) else
    let id := findText de "dNumIDRec"
    ("dNumIDRec", if id.isEmpty then "0" else id)
  let items := match de.selectElement "gDtipDE" with
    | some d => (d.selectElements "gCamItem").length
    | none => 0
  let pairs := [("nVersion", Invoice.formatVersion), ("Id", de.attrValue "Id" ""),
    ("dFeEmiDE", hexLower (encode (findText de "dFeEmiDE"))), receiver,
    ("dTotGralOpe", amountText (findText de "dTotGralOpe")),
    ("dTotIVA", amountText (findText de "dTotIVA")), ("cItems", toString items),
    ("DigestValue", hexLower (encode digest)), ("IdCSC", q.cscId)]
  "&".intercalate (pairs.map fun (k, v) => k ++ "=" ++ Net.queryEscape v)

/-- The QR link of a signed document root. -/
def qrLink (q : QrSettings) (rde : Element) : Except QrError String := do
  if q.csc.isEmpty ∨ q.cscId.isEmpty then .error .noCsc
  let some de := rde.selectElement "DE" | .error (.noDE rde.tag)
  let digest := digestValueOf rde
  if digest.isEmpty then .error .unsigned
  let query := qrQuery q de digest
  let base := if q.baseUrl.isEmpty then qrBaseTest else q.baseUrl
  let base := if base.endsWith "?" then base else base ++ "?"
  pure (base ++ query ++ "&cHashQR=" ++ hexLower (Sha256.hash (encode (query ++ q.csc))))

/-- Remove the first child element named `tag`. -/
def removeFirstChild (e : Element) (tag : String) : Element :=
  { e with children := e.children.eraseP fun
      | .elem _ t _ _ => t == tag
      | _ => false }

/-- The root with its QR link as the last child, `gCamFuFD/dCarQR`, replacing the first
`gCamFuFD` it had; the link too. -/
def appendQr (q : QrSettings) (rde : Element) : Except QrError (Element × String) := do
  let link ← qrLink q rde
  let rde := if (rde.selectElement "gCamFuFD").isSome then removeFirstChild rde "gCamFuFD" else rde
  pure (rde.addChild (.elem "" "gCamFuFD" [] [.elem "" "dCarQR" [] [.text link]]), link)

theorem qrLink_noCsc (q : QrSettings) (rde : Element) (h : q.csc = "") :
    qrLink q rde = .error .noCsc := by
  simp [qrLink, h]; rfl

end EInvoice.Assembly
