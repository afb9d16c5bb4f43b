import EInvoice.Archive.ZipRead
import EInvoice.Archive.ZipWrite
import EInvoice.Deflate.Stream
import EInvoice.Crypto.Base64
import EInvoice.Failure

/-!
# Lot payloads

A lot travels as base64 text of a zip archive holding one entry, `lote.xml`, the lot's text
in UTF-8, deflated (at the default level unless another is asked for). Reading a payload
undoes each step: the base64 must be valid, the archive must read and hold
exactly one entry, the entry must read, and its bytes must be UTF-8. Failures of the base64
and of the UTF-8 are encoding failures; all others are compression failures.
-/

namespace EInvoice.Archive

open EInvoice.Text EInvoice.Crypto

/-- The largest lot text accepted, in bytes. -/
def maxLotSize : Nat := 64 * 1024 * 1024

/-- Why a lot payload cannot be made or read. -/
inductive LotError where
  /-- the text or the payload is badly encoded -/
  | encoding (detail : String)
  /-- the archive cannot be written or read -/
  | compression (detail : String)
  deriving Repr, DecidableEq

instance : Reportable LotError where
  message
    | .encoding d => "lot encoding failed: " ++ d
    | .compression d => "lot compression failed: " ++ d
  kinds
    | .encoding _ => [.encoding]
    | .compression _ => [.compression]

/-- The name of the entry that holds the lot. -/
def lotEntryName : String := "lote.xml"

/-- The payload of a lot given as bytes: they must be UTF-8; they are deflated at `level` into
the archive's single entry, and the archive is written in base64. A level that does not exist
is a compression failure. -/
def encodeLotBytes (level : Int) (bytes : Bytes) : Except LotError String := do
  if !isValid bytes then throw (.encoding "lot text is not valid UTF-8")
  let deflated ← (Deflate.compress level bytes.toArray).mapError LotError.compression
  pure (Base64.encode (zipOneEntry (Text.encode lotEntryName) bytes deflated.toList))

/-- The payload of a lot text at the default level. -/
def encodeLot (text : String) : Except LotError String :=
  encodeLotBytes (-1) (Text.encode text)

/-- The text of an archive's single entry. -/
def decompressLot (data : Bytes) : Except LotError String := do
  let (entries, _) ← (readArchive data).mapError fun e => .compression e.message
  let [entry] := entries
    | .error (.compression ("expected one entry, found " ++ toString entries.length))
  let bytes ← (readEntry data entry).mapError fun e => .compression e.message
  if bytes.length > maxLotSize then
    .error (.compression ("lot exceeds " ++ toString maxLotSize ++ " bytes"))
  if !isValid bytes then .error (.encoding "lot text is not valid UTF-8")
  pure (decodeLossy bytes)

/-- The text of a lot payload. -/
def decodeLot (payload : String) : Except LotError String := do
  let data ← (Base64.decode payload).mapError fun e => .encoding e.message
  decompressLot data

end EInvoice.Archive
