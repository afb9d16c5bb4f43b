import EInvoice.Deflate.Code

/-!
# Tokens of a deflate block

What a matcher produces for one block: literal bytes, copies of earlier bytes (a length of 3
to 258 and a distance of 1 to 32768) and the end-of-block marker, together with the counts of
the symbols they will be written with. A copy longer than 258 bytes is written as several,
each leaving at least three bytes for the next.
-/

namespace EInvoice.Deflate

/-- One token of a block. -/
inductive Token where
  /-- a byte written as it is -/
  | literal (b : UInt8)
  /-- `length` bytes copied from `distance` bytes back -/
  | copy (length distance : Nat)
  /-- the end of the block -/
  | endBlock
  deriving Repr, Inhabited, DecidableEq

/-- The tokens of a block and the counts of their symbols: literal bytes; the end-of-block
marker (index 0) and length codes (index one past the code); distance symbols. -/
structure Tokens where
  items : Array Token := #[]
  literalHist : Array Nat := Array.replicate 256 0
  extraHist : Array Nat := Array.replicate 32 0
  offsetHist : Array Nat := Array.replicate 32 0
  deriving Inhabited

/-- Add one to entry `i` of a count table. -/
def bump (hist : Array Nat) (i : Nat) : Array Nat := hist.modify i (· + 1)

/-- The number of tokens. -/
def Tokens.count (t : Tokens) : Nat := t.items.size

/-- Append a literal byte. -/
def Tokens.addLiteral (t : Tokens) (b : UInt8) : Tokens :=
  { t with items := t.items.push (.literal b), literalHist := bump t.literalHist b.toNat }

/-- Append every byte of `src` from `a` up to `b` as literals. -/
def Tokens.addLiterals (t : Tokens) (src : Array UInt8) (a b : Nat) : Tokens :=
  (List.range (b - a)).foldl (fun t i => t.addLiteral (src.getD (a + i) 0)) t

/-- Append a copy of 3 to 258 bytes. -/
def Tokens.addCopy (t : Tokens) (length distance : Nat) : Tokens :=
  { t with items := t.items.push (.copy length distance),
           extraHist := bump t.extraHist (1 + lengthCode (length - 3)),
           offsetHist := bump t.offsetHist (offsetCode (distance - 1)) }

/-- Append a copy of any length, cut into pieces of at most 258 bytes; a piece is shortened
to 255 when fewer than three bytes would be left after it. -/
def Tokens.addCopyLong (t : Tokens) (length distance : Nat) : Tokens :=
  go length t (length + 1)
where
  go (left : Nat) (t : Tokens) : Nat → Tokens
    | 0 => t
    | fuel + 1 =>
      if left = 0 then t
      else
        let piece := if left > 258 then (if left > 261 then 258 else 255) else left
        go (left - piece) (t.addCopy piece distance) fuel

/-- Append the end-of-block marker. -/
def Tokens.addEndBlock (t : Tokens) : Tokens :=
  { t with items := t.items.push .endBlock, extraHist := bump t.extraHist 0 }

/-- A fast base-2 logarithm for single precision: the exponent plus a quadratic in the
mantissa. -/
def fastLog2 (v : Float32) : Float32 :=
  let ux := v.toBits
  let e : Int := ((ux >>> 23) &&& 255).toNat
  let mant := Float32.ofBits ((ux &&& 0x807FFFFF) + 0x3F800000)
  Float32.ofInt (e - 128) +
    ((Float32.ofBits 0xbeb08ff9 * mant + Float32.ofBits 0x40019420) * mant -
      Float32.ofBits 0x3f2cc4c7)

/-- A cost in bits of at least one. -/
def atLeastOne (v : Float32) : Float32 := if v < 1 then 1 else v

/-- The entropy cost of a count `v` out of a total whose inverse is `inv`. -/
def entropyCost (inv : Float32) (v : Nat) : Float32 :=
  let n := Float32.ofNat v
  atLeastOne (-fastLog2 (n * inv)) * n

/-- An estimate of the bits the tokens take with codes made for them: the entropy of the
literal and length symbols against the number of tokens, of the distance symbols against the
number of copies, fifteen bits for the end of block, and the extra bits. -/
def Tokens.estimatedBits (t : Tokens) : Nat := Id.run do
  let mut shannon : Float32 := 0
  let mut bits := 0
  let mut copies := 0
  let total := t.count
  if total > 0 then
    let inv := 1 / Float32.ofNat total
    for v in t.literalHist do
      if v > 0 then shannon := shannon + entropyCost inv v
    shannon := shannon + 15
    for i in [0:29] do
      let v := t.extraHist.getD (i + 1) 0
      if v > 0 then
        shannon := shannon + entropyCost inv v
        bits := bits + lengthExtra.getD i 0 * v
        copies := copies + v
  if copies > 0 then
    let inv := 1 / Float32.ofNat copies
    for i in [0:30] do
      let v := t.offsetHist.getD i 0
      if v > 0 then
        shannon := shannon + entropyCost inv v
        bits := bits + offsetExtra.getD i 0 * v
  return shannon.toUInt64.toNat + bits

theorem count_addLiteral (t : Tokens) (b : UInt8) :
    (t.addLiteral b).count = t.count + 1 := by
  simp [Tokens.addLiteral, Tokens.count]

end EInvoice.Deflate
