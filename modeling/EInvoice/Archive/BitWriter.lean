import EInvoice.Text.Utf8

/-!
# Writing bits

The output side of a deflate stream: bits are appended least significant first, and bytes
are completed from their lowest bit up. `flush` pads the last byte with zero bits.
-/

namespace EInvoice.Archive

open EInvoice.Text

/-- Bytes written so far and the bits of a byte not yet complete. -/
structure BitWriter where
  out : Array UInt8 := #[]
  /-- the pending bits, the first one lowest -/
  acc : Nat := 0
  /-- how many bits are pending -/
  count : Nat := 0
  deriving Repr

/-- Move complete bytes out of the pending bits. -/
def BitWriter.settle (w : BitWriter) : BitWriter :=
  go (w.count / 8) w
where
  go : Nat → BitWriter → BitWriter
    | 0, w => w
    | k + 1, w => go k { out := w.out.push (w.acc % 256).toUInt8, acc := w.acc / 256, count := w.count - 8 }

/-- Append the low `n` bits of `v`. -/
def BitWriter.bits (w : BitWriter) (v n : Nat) : BitWriter :=
  BitWriter.settle { w with acc := w.acc + (v % Nat.pow 2 n) * Nat.pow 2 w.count, count := w.count + n }

/-- Complete the last byte with zero bits. -/
def BitWriter.flush (w : BitWriter) : BitWriter :=
  if w.count = 0 then w else { out := w.out.push (w.acc % 256).toUInt8, acc := 0, count := 0 }

/-- Append whole bytes; the writer must be at a byte boundary. -/
def BitWriter.bytes (w : BitWriter) (bs : Bytes) : BitWriter :=
  { w with out := bs.foldl Array.push w.out }

/-- Everything written, the last byte padded. -/
def BitWriter.result (w : BitWriter) : Bytes := w.flush.out.toList

theorem flush_count (w : BitWriter) : w.flush.count = 0 := by
  unfold BitWriter.flush
  split <;> simp_all

end EInvoice.Archive
