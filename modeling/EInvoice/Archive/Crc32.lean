import EInvoice.Text.Utf8

/-!
# CRC-32

The cyclic redundancy check of zip entries (IEEE 802.3): the reflected polynomial
`0xEDB88320`, the register starting at all ones and inverted at the end. Bytes are taken
one bit at a time, least significant first.
-/

namespace EInvoice.Archive

open EInvoice.Text

/-- The reflected generator polynomial. -/
def crcPolynomial : UInt32 := 0xEDB88320

/-- The register after one bit. -/
def crcBit (r : UInt32) : UInt32 :=
  if r &&& 1 = 1 then (r >>> 1) ^^^ crcPolynomial else r >>> 1

/-- The register after one byte. -/
def crcByte (r : UInt32) (b : UInt8) : UInt32 :=
  (List.range 8).foldl (fun r _ => crcBit r) (r ^^^ b.toUInt32)

/-- The register after a byte string, from a given register. -/
def crcUpdate (r : UInt32) (bs : Bytes) : UInt32 := bs.foldl crcByte r

/-- The CRC-32 of a byte string. -/
def crc32 (bs : Bytes) : UInt32 := crcUpdate 0xFFFFFFFF bs ^^^ 0xFFFFFFFF

theorem crcUpdate_append (r : UInt32) (a b : Bytes) :
    crcUpdate r (a ++ b) = crcUpdate (crcUpdate r a) b := by
  simp [crcUpdate, List.foldl_append]

end EInvoice.Archive
