import EInvoice.Archive.BitWriter
import EInvoice.Deflate.Huffman
import EInvoice.Deflate.Tokens

/-!
# Writing deflate blocks

A block is written stored (raw bytes), with the fixed codes, or with codes made for it and
sent in its header; the writer picks whichever its size estimates say is smallest, with
rules of thumb that favour the cheaper choices on small blocks.

A block that is not the last of a flush may leave its codes in use: the next block then
either goes on with them, without a header (when every symbol it needs has a code and that is
not estimated dearer than a new table), or first ends the open block. A block of literals
only ("Huffman only") uses a literal code and a one-symbol distance code.

Sizes are in bits. The stored size of a block counts its five header bytes; blocks of more
than 65535 bytes cannot be stored.
-/

namespace EInvoice.Deflate

open EInvoice.Archive

/-- The state of a block writer: the bits written, whether a block is still open (the size of
its header, zero when none is) and whether it holds only literals, the codes in use, a spare
literal code, and the counts of the block being written. -/
structure BlockWriter where
  out : BitWriter := {}
  lastHeader : Nat := 0
  lastHuffman : Bool := false
  literalCodes : Array Code := Code.table 286
  offsetCodes : Array Code := Code.table 30
  spareCodes : Array Code := Code.table 286
  codegenCodes : Array Code := Code.table 19
  literalFreq : Array Nat := Array.replicate 289 0
  offsetFreq : Array Nat := Array.replicate 32 0
  codegenFreq : Array Nat := Array.replicate 19 0
  codegen : Array Nat := #[]
  /-- how much dearer a new table is assumed to be, as a right shift of its size -/
  penalty : Nat := 7

/-- The distance code of blocks of literals only: one symbol with a one-bit code. -/
def literalOnlyOffsets : Array Code := (Code.table 30).set! 0 ⟨0, 1⟩

namespace BlockWriter

/-- Append `n` bits. -/
def bits (w : BlockWriter) (v n : Nat) : BlockWriter := { w with out := w.out.bits v n }

/-- Append a code word. -/
def code (w : BlockWriter) (c : Code) : BlockWriter := w.bits c.bits c.len

/-- End the open block, if there is one. -/
def closeOpen (w : BlockWriter) : BlockWriter :=
  if w.lastHeader > 0 then
    { w.code (w.literalCodes.getD endOfBlock default) with lastHeader := 0 }
  else w

/-- Pad to a whole byte, first ending the open block. -/
def flush (w : BlockWriter) : BlockWriter :=
  let w := w.closeOpen
  { w with out := w.out.flush }

/-- The header of a block with fixed codes. -/
def fixedHeader (w : BlockWriter) (eof : Bool) : BlockWriter :=
  w.closeOpen.bits (if eof then 3 else 2) 3

/-- The header of a stored block of `len` bytes. An empty last block is written with fixed
codes instead: ten bits rather than five bytes. -/
def storedHeader (w : BlockWriter) (len : Nat) (eof : Bool) : BlockWriter :=
  let w := w.closeOpen
  if len == 0 && eof then
    ((w.fixedHeader eof).bits 0 7).flush
  else
    let w := (w.bits (if eof then 1 else 0) 3).flush
    (w.bits len 16).bits (65535 - len % 65536) 16

/-- Append raw bytes at a byte boundary. -/
def rawBytes (w : BlockWriter) (bs : Array UInt8) : BlockWriter :=
  let w := w.flush
  { w with out := { w.out with out := w.out.out ++ bs } }

/-- A stored block of `input`. -/
def stored (w : BlockWriter) (input : Array UInt8) (eof : Bool) : BlockWriter :=
  (w.storedHeader input.size eof).rawBytes input

end BlockWriter

/-- The size of `input` as a stored block, and whether it can be stored. -/
def storedSize : Option (Array UInt8) → Nat × Bool
  | none => (0, false)
  | some input => if input.size ≤ 65535 then ((input.size + 5) * 8, true) else (0, false)

/-- The lengths of the literal and distance codes as the header sends them: each run of one
length becomes the length and repeats of it (symbol 16, three to six at a time); each run of
zeros becomes symbol 18 (eleven to 138) and 17 (three to ten). A repeat count follows its
symbol. Returns the list and the count of each symbol. -/
def codegenOf (lengths : Array Nat) : Array Nat × Array Nat := Id.run do
  let mut out : Array Nat := #[]
  let mut freq : Array Nat := Array.replicate 19 0
  let mut i := 0
  for _ in [0:lengths.size + 1] do
    if i < lengths.size then
      let size := lengths.getD i 0
      let run := ((lengths.extract i lengths.size).toList.takeWhile (· == size)).length
      let mut count := run
      if size != 0 then
        out := out.push size
        freq := bump freq size
        count := count - 1
        for _ in [0:count] do
          if count ≥ 3 then
            let n := min 6 count
            out := (out.push 16).push (n - 3)
            freq := bump freq 16
            count := count - n
      else
        for _ in [0:count] do
          if count ≥ 11 then
            let n := min 138 count
            out := (out.push 18).push (n - 11)
            freq := bump freq 18
            count := count - n
        if count ≥ 3 then
          out := (out.push 17).push (count - 3)
          freq := bump freq 17
          count := 0
      for _ in [0:count] do
        out := out.push size
        freq := bump freq size
      i := i + run
  return (out, freq)

namespace BlockWriter

/-- Make the code-length list for the first `numLit` literal codes and `numOff` distance
codes. -/
def makeCodegen (w : BlockWriter) (numLit numOff : Nat) (lit off : Array Code) :
    BlockWriter :=
  let lengths := ((lit.extract 0 numLit).map (·.len)) ++ ((off.extract 0 numOff).map (·.len))
  let (cg, freq) := codegenOf lengths
  { w with codegen := cg, codegenFreq := freq }

/-- How many code-length code lengths the header sends: trailing zeros in the sending order
are dropped, but at least four are sent. -/
def codegenCount (w : BlockWriter) : Nat :=
  let rec go : Nat → Nat → Nat
    | 0, n => n
    | k + 1, n =>
      if n > 4 && w.codegenFreq.getD (codegenOrder.getD (n - 1) 0) 0 == 0 then go k (n - 1)
      else n
  go 19 19

/-- The size of a dynamic block header. -/
def headerSize (w : BlockWriter) : Nat :=
  3 + 5 + 5 + 4 + 3 * w.codegenCount + bitLength w.codegenCodes w.codegenFreq +
    w.codegenFreq.getD 16 0 * 2 + w.codegenFreq.getD 17 0 * 3 + w.codegenFreq.getD 18 0 * 7

/-- The extra bits that the block's lengths and distances take. -/
def extraBitSize (w : BlockWriter) : Nat :=
  (List.range 29).foldl (fun t i => t + w.literalFreq.getD (257 + i) 0 * lengthExtra.getD i 0) 0 +
    (List.range 30).foldl (fun t i => t + w.offsetFreq.getD i 0 * offsetExtra.getD i 0) 0

/-- The size of the block with its own codes and header. -/
def dynamicSize (w : BlockWriter) (extra : Nat) : Nat :=
  w.headerSize + bitLength w.literalCodes w.literalFreq + bitLength w.offsetCodes w.offsetFreq +
    extra

/-- The size of the block with the fixed codes. -/
def fixedSize (w : BlockWriter) (extra : Nat) : Nat :=
  3 + bitLength fixedLiteralCodes w.literalFreq + bitLength fixedOffsetCodes w.offsetFreq + extra

/-- The size of the block's symbols with the codes in use. -/
def reuseSize (w : BlockWriter) : Nat :=
  bitLength w.literalCodes w.literalFreq + bitLength w.offsetCodes w.offsetFreq

/-- Write a dynamic block header. -/
def dynamicHeader (w : BlockWriter) (numLit numOff numCodegens : Nat) (eof : Bool) :
    BlockWriter := Id.run do
  let mut w := w.bits (if eof then 5 else 4) 3
  w := ((w.bits (numLit - 257) 5).bits (numOff - 1) 5).bits (numCodegens - 4) 4
  for i in [0:numCodegens] do
    w := w.bits (w.codegenCodes.getD (codegenOrder.getD i 0) default).len 3
  let cg := w.codegen
  let mut i := 0
  for _ in [0:cg.size] do
    if i < cg.size then
      let c := cg.getD i 0
      w := w.code (w.codegenCodes.getD c default)
      i := i + 1
      let extra := if c == 16 then 2 else if c == 17 then 3 else if c == 18 then 7 else 0
      if extra > 0 then
        w := w.bits (cg.getD i 0) extra
        i := i + 1
  return w

/-- Write tokens with the given codes. -/
def tokens (w : BlockWriter) (ts : Array Token) (lit off : Array Code) : BlockWriter :=
  ts.foldl (fun w t =>
    match t with
    | .literal b => w.code (lit.getD b.toNat default)
    | .endBlock => w.code (lit.getD endOfBlock default)
    | .copy length distance =>
      let xl := length - 3
      let lc := lengthCode xl
      let w := w.code (lit.getD (257 + lc) default)
      let w := if lc ≥ 8 then w.bits (xl - lengthBase.getD lc 0) (lengthExtra.getD lc 0) else w
      let xo := distance - 1
      let oc := offsetCode xo
      let w := w.code (off.getD oc default)
      if oc ≥ 4 then w.bits (xo - offsetBase.getD oc 0) (offsetExtra.getD oc 0) else w) w

/-- Take the block's counts from its tokens; the numbers of literal and distance codes to
send: all of them when the table may be used again, else up to the last one used (at least
one distance code, made up when there is no copy). -/
def indexTokens (w : BlockWriter) (t : Tokens) (filled : Bool) : BlockWriter × Nat × Nat :=
  let w := { w with literalFreq := t.literalHist ++ t.extraHist ++ #[0], offsetFreq := t.offsetHist }
  if t.count == 0 then (w, 0, 0)
  else if filled then (w, 286, 30)
  else
    let numLit := 289 - ((w.literalFreq.toList.reverse.takeWhile (· == 0)).length)
    let numOff := 32 - ((w.offsetFreq.toList.reverse.takeWhile (· == 0)).length)
    if numOff == 0 then ({ w with offsetFreq := w.offsetFreq.set! 0 1 }, numLit, 1)
    else (w, numLit, numOff)

/-- Whether every symbol the tokens use has a code in the codes in use. -/
def canReuse (w : BlockWriter) (t : Tokens) : Bool :=
  (List.range 30).all (fun i => t.offsetHist.getD i 0 == 0 || (w.offsetCodes.getD i default).len != 0) &&
  (List.range 30).all (fun i => t.extraHist.getD i 0 == 0 ||
    (w.literalCodes.getD (256 + i) default).len != 0) &&
  (List.range 256).all (fun i => t.literalHist.getD i 0 == 0 || (w.literalCodes.getD i default).len != 0)

/-- Write the tokens with the fixed codes. -/
def fixedBlock (w : BlockWriter) (t : Tokens) (eof sync : Bool) : BlockWriter :=
  let w := w.fixedHeader eof
  let t := if sync then t else t.addEndBlock
  w.tokens t.items fixedLiteralCodes fixedOffsetCodes

/-- Write a block of tokens, picking stored, fixed or dynamic codes; `input` is the bytes the
tokens stand for, when they are still at hand. A block that ends a flush (`sync`) or the
stream (`eof`) is closed; any other may leave its codes open for the next. -/
def blockDynamic (w : BlockWriter) (t : Tokens) (eof : Bool) (input : Option (Array UInt8))
    (sync : Bool) : BlockWriter := Id.run do
  let sync := sync || eof
  let t := if sync then t.addEndBlock else t
  let mut w := w
  if (w.lastHuffman || eof) && w.lastHeader > 0 then
    w := { w.closeOpen with lastHuffman := false }
  if w.lastHeader > 0 && !w.canReuse t then
    w := w.closeOpen
  let (w1, numLit, numOff) := w.indexTokens t !sync
  w := w1
  let (ssize, storable) := storedSize input
  let extra := if storable || w.lastHeader > 0 then w.extraBitSize else 0
  let raw := input.getD #[]
  let mut size := 0
  if w.lastHeader > 0 then
    let newSize0 := w.lastHeader + t.estimatedBits
    let newSize := newSize0 + (w.literalCodes.getD endOfBlock default).len + newSize0 / Nat.pow 2 w.penalty
    let reuse := w.reuseSize + extra
    if newSize < reuse then
      w := w.closeOpen
      size := newSize
    else
      size := reuse
    if t.count < 250 then
      let preSize := w.fixedSize extra + 7
      if preSize < size then
        if storable && ssize ≤ preSize then return w.stored raw eof
        return w.fixedBlock t eof sync
    if storable && ssize ≤ size then return w.stored raw eof
  if w.lastHeader == 0 then
    w := { w with literalFreq := w.literalFreq.set! endOfBlock 1 }
    w := { w with literalCodes := generate w.literalCodes (w.literalFreq.extract 0 286) 15,
                  offsetCodes := generate w.offsetCodes (w.offsetFreq.extract 0 30) 15 }
    w := w.makeCodegen numLit numOff w.literalCodes w.offsetCodes
    w := { w with codegenCodes := generate w.codegenCodes w.codegenFreq 7 }
    size := w.dynamicSize extra
    let numCodegens := w.codegenCount
    if t.count < 250 then
      let preSize := w.fixedSize extra
      if preSize ≤ size then
        if storable && ssize ≤ preSize then return w.stored raw eof
        return w.fixedBlock t eof sync
    if storable && ssize ≤ size then return w.stored raw eof
    w := w.dynamicHeader numLit numOff numCodegens eof
    if !sync then w := { w with lastHeader := w.headerSize }
    w := { w with lastHuffman := false }
  if sync then w := { w with lastHeader := 0 }
  return w.tokens t.items w.literalCodes w.offsetCodes

/-- The bits that `codes` spends on the counts `freq`, or `noFreq` when a symbol in use has no
code. -/
def reuseBits (codes : Array Code) (freq : Array Nat) : Nat :=
  (List.range freq.size).foldl (fun total i =>
    let f := freq.getD i 0
    if total == noFreq || f == 0 then total
    else
      let c := codes.getD i default
      if c.len == 0 then noFreq else total + f * c.len) 0

/-- Whether the byte counts are so even that coding cannot win: the sum of squared distances
from the mean stays under twice the length. -/
def looksRandom (freq : Array Nat) (n : Nat) : Bool := Id.run do
  let avg := n.toFloat / 256
  let max := (n * 2).toFloat
  let mut abs : Float := 0
  for i in [0:256] do
    if abs ≤ max then
      let d := (freq.getD i 0).toFloat - avg
      abs := abs + d * d
  return abs < max

/-- Write a block of literals only, with a literal code made for `input` (or the one in use,
when that is not estimated dearer), or stored when that is smaller. -/
def blockHuff (w : BlockWriter) (eof : Bool) (input : Array UInt8) (sync : Bool) :
    BlockWriter := Id.run do
  let mut w := { w with literalFreq := Array.replicate 289 0 }
  if !w.lastHuffman then w := { w with offsetFreq := Array.replicate 32 0 }
  w := { w with literalFreq := input.foldl (fun f b => bump f b.toNat) w.literalFreq }
  let (ssize, storable) := storedSize (some input)
  if storable && input.size > 1024 && looksRandom w.literalFreq input.size then
    return w.stored input eof
  w := { w with literalFreq := w.literalFreq.set! endOfBlock 1 }
  let fresh := generate w.spareCodes (w.literalFreq.extract 0 257) 15
  w := { w with spareCodes := fresh }
  let mut est := reuseBits fresh (w.literalFreq.extract 0 257)
  if est < noFreq then
    est := est + w.lastHeader
    if w.lastHeader == 0 then est := est + 70 * 8
    est := est + est / Nat.pow 2 w.penalty
  if storable && ssize ≤ est then return w.stored input eof
  if w.lastHeader > 0 then
    let reuse := reuseBits w.literalCodes (w.literalFreq.extract 0 256)
    if est < reuse then w := w.closeOpen
  if w.lastHeader == 0 then
    w := { w with literalCodes := w.spareCodes, spareCodes := w.literalCodes }
    w := w.makeCodegen 257 1 w.literalCodes literalOnlyOffsets
    w := { w with codegenCodes := generate w.codegenCodes w.codegenFreq 7 }
    w := w.dynamicHeader 257 1 w.codegenCount eof
    w := { w with lastHuffman := true, lastHeader := w.headerSize }
  let lit := w.literalCodes
  w := input.foldl (fun w b => w.code (lit.getD b.toNat default)) w
  if eof || sync then
    w := { w.code (lit.getD endOfBlock default) with lastHeader := 0, lastHuffman := false }
  return w

end BlockWriter

example : storedSize none = (0, false) := rfl

end EInvoice.Deflate
