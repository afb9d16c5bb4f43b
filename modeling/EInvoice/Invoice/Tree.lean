import EInvoice.Invoice.Totals
import EInvoice.Xml.Writer

/-!
# The rDE tree of a document

A document built from its fields is written as an `rDE` element in the e-invoicing
namespace (schema version 150). Its `DE` child carries the identifier as `Id` and holds,
in order: the check digit, the signing time, the operation group (`gOpeDE`), the stamp
group (`gTimb`), the general data (`gDatGralOpe`: issue date, commercial operation,
issuer, receiver), the type-specific data (`gDtipDE`: presence indicator for invoices,
payment condition, one `gCamItem` per item) and the totals (`gTotSub`).

Amounts are written with exactly the amount places of the currency (`toFixed`), the
quantity of an item in its shortest form (`toString`).
-/

namespace EInvoice.Invoice

open EInvoice.Xml EInvoice.Text EInvoice.Clock

/-- The e-invoicing namespace. -/
def sifenNamespace : String := "http://ekuatia.set.gov.py/sifen/xsd"
/-- The XML Schema instance namespace. -/
def xsiNamespace : String := "http://www.w3.org/2001/XMLSchema-instance"
/-- The XML signature namespace. -/
def dsigNamespace : String := "http://www.w3.org/2000/09/xmldsig#"
/-- The schema version of the documents. -/
def formatVersion : String := "150"
/-- Where the schema of one document is found. -/
def schemaLocation : String := sifenNamespace ++ " siRecepDE_v150.xsd"

/-- An element holding only a text (no child at all when the text is empty). -/
def leaf (tag text : String) : Node :=
  .elem "" tag [] (if text.isEmpty then [] else [.text text])

/-- An element holding child elements. -/
def group (tag : String) (children : List Node) : Node := .elem "" tag [] children

/-- The name of a currency code, or the code itself when it has none. -/
def currencyName (code : String) : String :=
  match code with
  | "PYG" => "Guarani"
  | "USD" => "US Dollar"
  | "EUR" => "Euro"
  | "BRL" => "Brazilian Real"
  | c => c

/-- The `gCamItem` element of one item. -/
def itemNode (p : Int) (it : Item) : Node :=
  let amount := fun (v : Decimal) => v.toFixed p
  let line := lineAmount it p
  let (base, tax) := splitVat line it.vatRate p
  let vatGroup :=
    (if it.vatRate = 0 then [leaf "iAfecIVA" "3", leaf "dDesAfecIVA" "Exento", leaf "dPropIVA" "0"]
     else [leaf "iAfecIVA" "1", leaf "dDesAfecIVA" "Gravado IVA", leaf "dPropIVA" "100"]) ++
    [leaf "dTasaIVA" (showInt it.vatRate), leaf "dBasGravIVA" (amount base),
     leaf "dLiqIVAItem" (amount tax)]
  group "gCamItem" [
    leaf "dCodInt" it.code, leaf "dDesProSer" it.description, leaf "cUniMed" "77",
    leaf "dDesUniMed" "UNI", leaf "dCantProSer" it.quantity.toString,
    group "gValorItem" [
      leaf "dPUniProSer" (amount it.unitPrice), leaf "dTotBruOpeItem" (amount line),
      group "gValorRestaItem" [leaf "dTotOpeItem" (amount line)]],
    group "gCamIVA" vatGroup]

/-- The `gTotSub` element. -/
def totalsNode (p : Int) (t : Totals) : Node :=
  let amount := fun (v : Decimal) => v.toFixed p
  group "gTotSub" [
    leaf "dSubExe" (amount t.exempt), leaf "dSub5" (amount t.sub5),
    leaf "dSub10" (amount t.sub10), leaf "dTotOpe" (amount t.operation),
    leaf "dTotGralOpe" (amount t.operation), leaf "dIVA5" (amount t.vat5),
    leaf "dIVA10" (amount t.vat10), leaf "dTotIVA" (amount t.vat),
    leaf "dBaseGrav5" (amount t.base5), leaf "dBaseGrav10" (amount t.base10),
    leaf "dTBasGraIVA" (amount t.taxableBase)]

/-- The `gDatRec` element: the receiver. -/
def receiverNode (r : Receiver) : Node :=
  let hasRuc := !r.ruc.isEmpty
  group "gDatRec" (
    [leaf "iNatRec" (if hasRuc then "1" else "2"), leaf "iTiOpe" "1", leaf "cPaisRec" r.country] ++
    (if hasRuc then
      [leaf "iTiContRec" (showInt (if r.taxpayerType = 0 then 2 else r.taxpayerType)),
       leaf "dRucRec" r.ruc, leaf "dDVRec" (showInt r.dv)]
     else []) ++
    [leaf "dNomRec" r.name])

/-- The `gEmis` element: the issuer. -/
def issuerNode (f : Fields) : Node :=
  group "gEmis" (
    [leaf "dRucEm" f.issuerRuc, leaf "dDVEmi" (showInt f.issuerDv),
     leaf "iTipCont" (showInt f.taxpayerType), leaf "dNomEmi" f.issuerName,
     leaf "dDirEmi" f.issuerAddress, leaf "dNumCas" "0", leaf "cDepEmi" "1",
     leaf "dDesDepEmi" "CAPITAL", leaf "cCiuEmi" "1", leaf "dDesCiuEmi" "ASUNCION (DISTRITO)",
     leaf "dTelEmi" f.issuerPhone, leaf "dEmailE" f.issuerEmail] ++
    (if f.activityCode.isEmpty then []
     else [group "gActEco" [leaf "cActEco" f.activityCode, leaf "dDesActEco" f.activityName]]))

/-- The `rDE` tree of a document with identifier `id`, signed at `signedAt`. -/
def Fields.toElement (f : Fields) (id : String) (signedAt : Time) : Element :=
  let p := amountPlaces f.currency
  let de := Node.elem "" "DE" [⟨"", "Id", id⟩] [
    leaf "dDVId" (String.ofList (id.toList.drop (identifierLength - 1))),
    leaf "dFecFirma" signedAt.showDateTime,
    leaf "dSisFact" "1",
    group "gOpeDE" [
      leaf "iTipEmi" (showInt f.emissionType), leaf "dDesTipEmi" (emissionName f.emissionType),
      leaf "dCodSeg" (padInt 9 f.securityCode)],
    group "gTimb" (
      [leaf "iTiDE" (showInt f.type), leaf "dDesTiDE" (typeName f.type),
       leaf "dNumTim" (padInt 8 f.stampNumber), leaf "dEst" (padInt 3 f.establishment),
       leaf "dPunExp" (padInt 3 f.pointOfSale), leaf "dNumDoc" (padInt 7 f.number)] ++
      (if f.stampStart.isZero then [] else [leaf "dFeIniT" f.stampStart.showDate])),
    group "gDatGralOpe" [
      leaf "dFeEmiDE" f.issuedAt.showDateTime,
      group "gOpeCom" (
        (if f.type = 1 ∨ f.type = 4 then
          [leaf "iTipTra" "1", leaf "dDesTipTra" "Venta de mercadería"] else []) ++
        [leaf "iTImp" "1", leaf "dDesTImp" "IVA", leaf "cMoneOpe" f.currency,
         leaf "dDesMoneOpe" (currencyName f.currency)]),
      issuerNode f,
      receiverNode f.receiver],
    group "gDtipDE" (
      (if f.type = 1 then
        [group "gCamFE" [leaf "iIndPres" "1", leaf "dDesIndPres" "Operación presencial"]]
       else []) ++
      [group "gCamCond" [leaf "iCondOpe" "1", leaf "dDCondOpe" "Contado"]] ++
      f.items.map (itemNode p)),
    totalsNode p f.totals]
  { tag := "rDE",
    attrs := [⟨"", "xmlns", sifenNamespace⟩, ⟨"xmlns", "xsi", xsiNamespace⟩,
      ⟨"xsi", "schemaLocation", schemaLocation⟩],
    children := [leaf "dVerFor" formatVersion, de] }

end EInvoice.Invoice
