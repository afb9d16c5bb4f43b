import EInvoice.Deflate.Tokens

/-!
# What the fast matchers share

The fast matchers (levels 1 to 6) keep the input they have seen (up to five full blocks;
beyond that only the last 32768 bytes, the longest distance a copy may reach) and tables from
the hash of a few bytes to where those bytes were last seen. A table entry is a position plus
an offset that grows as old input is dropped, so that zero means "never seen".

Hashes multiply the next bytes, read little-endian, by a large odd constant and keep the top
bits; they wrap as 32- or 64-bit words do.
-/

namespace EInvoice.Deflate

/-- The longest distance a copy may reach. -/
def maxDistance : Int := 32768

/-- The largest number of bytes a block of the fast levels holds. -/
def maxBlock : Nat := 65535

/-- The input kept by a fast matcher, and the offset added to positions in its tables. -/
structure History where
  bytes : Array UInt8 := #[]
  cur : Int := 65535
  deriving Inhabited

/-- Add a block to the history, first dropping all but the last `keep` bytes when the history
would pass five full blocks; also where the block starts in the history. -/
def History.add (h : History) (block : Array UInt8) (keep : Nat) : History × Nat :=
  let h :=
    if h.bytes.size + block.size > 5 * maxBlock && h.bytes.size > 0 then
      let offset := h.bytes.size - keep
      { bytes := h.bytes.extract offset h.bytes.size, cur := h.cur + offset }
    else h
  ({ h with bytes := h.bytes ++ block }, h.bytes.size)

/-- The byte at `i`, or zero outside the input. -/
def byteAt (src : Array UInt8) (i : Int) : UInt64 :=
  if i < 0 then 0 else (src.getD i.toNat 0).toUInt64

/-- Eight bytes from `i`, little-endian. -/
def load64 (src : Array UInt8) (i : Int) : UInt64 :=
  (List.range 8).foldr (fun (k : Nat) (acc : UInt64) => (acc <<< 8) ||| byteAt src (i + (k : Int))) 0

/-- Four bytes from `i`, little-endian. -/
def load32 (src : Array UInt8) (i : Int) : UInt64 :=
  (List.range 4).foldr (fun (k : Nat) (acc : UInt64) => (acc <<< 8) ||| byteAt src (i + (k : Int))) 0

/-- The low 32 bits of a word. -/
def low32 (u : UInt64) : UInt64 := u &&& 0xFFFFFFFF

/-- The hash of the low `mls` bytes of `u`, `bits` bits wide. -/
def hashLen (u : UInt64) (bits mls : Nat) : Nat :=
  let b := bits.toUInt64
  match mls with
  | 3 => ((((u <<< 8).toUInt32 * 506832829) >>> (32 - bits).toUInt32)).toNat
  | 5 => (((u <<< 24) * 889523592379) >>> (64 - b)).toNat
  | 6 => (((u <<< 16) * 227718039650203) >>> (64 - b)).toNat
  | 7 => (((u <<< 8) * 58295818150454627) >>> (64 - b)).toNat
  | 8 => ((u * 0xcf1bbcdcb7a56463) >>> (64 - b)).toNat
  | _ => ((u.toUInt32 * 2654435761) >>> (32 - bits).toUInt32).toNat

/-- The hash of the low seven bytes of `u`. -/
def hash7 (u : UInt64) (bits : Nat) : Nat := hashLen u bits 7

/-- How many bytes agree from `a` and from `b` on, counting at most `max`. -/
def agreeing (src : Array UInt8) (a b max : Nat) : Nat :=
  go max 0
where
  go : Nat → Nat → Nat
    | 0, n => n
    | k + 1, n => if src.getD (a + n) 0 == src.getD (b + n) 0 then go k (n + 1) else n

/-- The match length from `s` against `t` (`t` before `s`), to the end of the input. -/
def matchLong (src : Array UInt8) (s t : Int) : Int :=
  agreeing src s.toNat t.toNat (src.size - s.toNat)

/-- The match length from `s` against `t`, at most 254 bytes. -/
def matchShort (src : Array UInt8) (s t : Int) : Int :=
  agreeing src s.toNat t.toNat (min (s.toNat + 254) src.size - s.toNat)

/-- Extend a match backwards while the bytes before both ends agree, not before `floor`:
the new start, source and length. -/
def extendBack (src : Array UInt8) (floor s t l : Int) : Int × Int × Int :=
  go (s - floor).toNat s t l
where
  go : Nat → Int → Int → Int → Int × Int × Int
    | 0, s, t, l => (s, t, l)
    | k + 1, s, t, l =>
      if t > 0 && s > floor && byteAt src (t - 1) == byteAt src (s - 1) then go k (s - 1) (t - 1) (l + 1)
      else (s, t, l)

/-- The tables of a fast matcher: a short table, the entry each short entry replaced (level
3), and a long table with the entry each long entry replaced (levels 4 to 6). -/
structure FastState where
  history : History := {}
  table : Array Int := #[]
  prev : Array Int := #[]
  long : Array Int := #[]
  longPrev : Array Int := #[]
  /-- the longest distance a copy may reach -/
  reach : Int := maxDistance
  deriving Inhabited

/-- Record `v` in the long table at `h`, keeping the entry it replaces. -/
def FastState.setLong (st : FastState) (h : Nat) (v : Int) : FastState :=
  let old := st.long.getD h 0
  { st with longPrev := st.longPrev.set! h old, long := st.long.set! h v }

/-- Record `v` in the short table at `h`, keeping the entry it replaces. -/
def FastState.setShort (st : FastState) (h : Nat) (v : Int) : FastState :=
  let old := st.table.getD h 0
  { st with prev := st.prev.set! h old, table := st.table.set! h v }

theorem agreeing_zero (src : Array UInt8) (a b : Nat) : agreeing src a b 0 = 0 := rfl

end EInvoice.Deflate
