import EInvoice.Deflate.BlockWriter
import EInvoice.Deflate.Fast.Basic

/-!
# The chain-searching matcher (levels 7 to 9)

The input passes through a window of 65536 bytes; when the position comes within 262 bytes of
its end, the upper half moves down. Every position is entered in a hash chain (four bytes
hashed to 17 bits; a chain links positions with the same hash, newest first). A match found
at one position is written only if the next position finds none longer ("lazy" matching);
when it is written, a second look at the position of its end may still lengthen it.

The levels differ in how far chains are followed (24, 64 or 1024 entries), when a match is
long enough to stop searching, and how long a deferred match may be before no later one is
sought. Level 9 judges candidates by the bits they save under a code made for the pending
bytes rather than by length alone. A long run of literals makes the matcher skip ahead.

A block is written when 16384 tokens have gathered, and at the end.
-/

namespace EInvoice.Deflate

/-- How hard a level searches: the match length beyond which no later match is sought, the
length at which searching stops, and how many chain entries are tried. -/
structure LazyParams where
  lazy : Nat
  nice : Nat
  chain : Nat
  deriving Repr, DecidableEq

/-- The search parameters of levels 7, 8 and 9. -/
def lazyParams : Nat → LazyParams
  | 7 => ⟨12, 16, 24⟩
  | 8 => ⟨30, 40, 64⟩
  | _ => ⟨258, 258, 1024⟩

/-- Half the window; also the longest distance. -/
def halfWindow : Nat := 32768

/-- A block start that no longer lies in the window. -/
def noStart : Nat := Nat.pow 2 31 - 1

/-- The most tokens a block gathers. -/
def maxBlockTokens : Nat := 16384

/-- The state of the chain-searching matcher and of the blocks it writes. -/
structure Chains where
  params : LazyParams
  window : Array UInt8 := Array.replicate (2 * halfWindow) 0
  windowEnd : Nat := 0
  blockStart : Nat := 0
  index : Nat := 0
  hashOffset : Nat := 1
  length : Nat := 3
  offset : Nat := 0
  chainHead : Int := -1
  /-- literals in a row, counted modulo 65536 -/
  ii : Nat := 0
  hashHead : Array Nat := Array.replicate (Nat.pow 2 17) 0
  hashPrev : Array Nat := Array.replicate halfWindow 0
  maxInsertIndex : Int := 0
  byteAvailable : Bool := false
  tokens : Tokens := {}
  /-- a literal code for the pending bytes, used to judge candidates -/
  codes : Array Code := Code.table 256
  writer : BlockWriter := { penalty := 8 }
  sync : Bool := false

namespace Chains

/-- The hash of the four bytes at `i`. -/
def hash4 (c : Chains) (i : Nat) : Nat :=
  let u : UInt32 := (List.range 4).foldr
    (fun (k : Nat) (acc : UInt32) => (acc <<< 8) ||| (c.window.getD (i + k) 0).toUInt32) 0
  ((u * 2654435761) >>> 15).toNat

/-- Enter position `i` at the head of its chain. -/
def insert (c : Chains) (i : Nat) : Chains :=
  let h := c.hash4 i
  let ch := c.hashHead.getD h 0
  { c with chainHead := ch, hashPrev := c.hashPrev.set! (i % halfWindow) ch,
           hashHead := c.hashHead.set! h (i + c.hashOffset) }

/-- Write the gathered tokens as a block ending at `index` and start a new one. -/
def flushTokens (c : Chains) : Chains :=
  let c := if c.index > 0 then
      let win := if c.blockStart ≤ c.index then some (c.window.extract c.blockStart c.index)
        else none
      { c with blockStart := c.index,
               writer := c.writer.blockDynamic c.tokens false win c.sync }
    else c
  { c with tokens := {} }

/-- Add a literal, writing a block when it fills one. -/
def emit (c : Chains) (b : UInt8) : Chains :=
  let c := { c with tokens := c.tokens.addLiteral b }
  if c.tokens.count == maxBlockTokens then c.flushTokens else c

/-- The bits a literal code spends on some bytes. -/
def rawBits (codes : Array Code) (bs : Array UInt8) : Int :=
  bs.foldl (fun t b => t + (codes.getD b.toNat default).len) 0

/-- The best match for `pos` along the chain from `prevHead`: its length, distance and whether
one longer than three bytes was found. -/
def findMatch (c : Chains) (pos prevHead lookahead : Nat) : Nat × Nat × Bool := Id.run do
  let look := min 258 lookahead
  let winEnd := pos + look
  let nice := min (winEnd - pos) c.params.nice
  let minIndex : Int := (pos : Int) - halfWindow
  let minIndex := max minIndex 0
  let mut length := 3
  let mut offset := 0
  let mut ok := false
  let mut wEnd := c.window.getD (pos + length) 0
  let mut i : Int := prevHead
  let gain := c.params.chain ≥ 100
  let mut cGain : Int := if gain then 4 else 0
  for _ in [0:c.params.chain] do
    let iN := i.toNat
    if wEnd == c.window.getD (iN + length) 0 then
      let n := agreeing c.window iN pos look
      if n > length then
        let mut accept := true
        if gain then
          let newGain : Int := rawBits c.codes (c.window.extract pos (pos + n)) -
            offsetExtra.getD (offsetCode (pos - iN)) 0 - 3 -
            lengthExtra.getD (lengthCode (n - 3)) 0
          if newGain > cGain then cGain := newGain
          else accept := false
        if accept then
          length := n
          offset := pos - iN
          ok := true
          if n ≥ nice then break
          wEnd := c.window.getD (pos + n) 0
    if i ≤ minIndex then break
    i := (c.hashPrev.getD (iN % halfWindow) 0 : Int) - c.hashOffset
    if i < minIndex then break
  return (length, offset, ok)

/-- Write the pending match (`len` bytes from `dist` back, found one position earlier), after
trying to lengthen it through the chain of the position at its end, where its first two bytes
need not agree; then enter the positions it covers. -/
def writeMatch (c0 : Chains) (len dist lookahead : Nat) : Chains := Id.run do
  let mut c := c0
  let mut prevLength := len
  let mut prevOffset := dist
  let minIndex := c.index - halfWindow
  if prevLength < 256 then
    let prevIndex := c.index - 1
    if ((prevIndex + prevLength : Nat) : Int) < c.maxInsertIndex then
      let stop := prevIndex + min lookahead 260
      let h := c.hash4 (prevIndex + prevLength)
      let ch2 : Int := (c.hashHead.getD h 0 : Int) - c.hashOffset - prevLength
      if (prevIndex : Int) - ch2 != prevOffset && ch2 > minIndex + 2 then
        let length := agreeing c.window (prevIndex + 2) (ch2.toNat + 2) (stop - (prevIndex + 2))
        if length > prevLength then
          prevLength := length
          prevOffset := prevIndex - ch2.toNat
          let mut stopped := false
          for k in [0:2] do
            let i := 1 - k
            if !stopped then
              if prevLength ≥ 258 ||
                  c.window.getD (prevIndex + i) 0 != c.window.getD (ch2.toNat + i) 0 then
                for j in [0:i + 1] do
                  c := c.emit (c.window.getD (prevIndex + j) 0)
                  c := { c with index := c.index + 1 }
                  if (c.index : Int) < c.maxInsertIndex then c := c.insert c.index
                stopped := true
              else prevLength := prevLength + 1
  c := { c with tokens := c.tokens.addCopy prevLength prevOffset }
  let newIndex := c.index + prevLength - 1
  let stop : Int := min (newIndex : Int) c.maxInsertIndex + 3
  let startIndex : Int := min ((c.index + 1 : Nat) : Int) c.maxInsertIndex
  let count := (stop - startIndex - 4 + 1).toNat
  for k in [0:count] do
    let di := k + startIndex.toNat
    let h := c.hash4 di
    let head := c.hashHead.getD h 0
    c := { c with hashPrev := c.hashPrev.set! (di % halfWindow) head,
                  hashHead := c.hashHead.set! h (di + c.hashOffset) }
  c := { c with index := newIndex, byteAvailable := false, length := 3 }
  if c.tokens.count == maxBlockTokens then c := c.flushTokens
  return { c with ii := 0 }

/-- Write the pending literal, if there is one, and move on a byte; after a long run of
literals, skip ahead writing literals without searching. -/
def writeLiteral (c0 : Chains) : Chains := Id.run do
  let mut c := c0
  if c.length ≥ 4 then c := { c with ii := 0 }
  if !c.byteAvailable then
    return { c with index := c.index + 1, byteAvailable := true }
  c := { c with ii := (c.ii + 1) % 65536 }
  c := c.emit (c.window.getD (c.index - 1) 0)
  c := { c with index := c.index + 1 }
  let n : Int := (c.ii : Int) - c.params.chain
  if n > 0 then
    let skip := 1 + (n / 64).toNat
    let mut stopped := false
    for _ in [0:skip] do
      if !stopped then
        if c.index + 1 ≥ c.windowEnd then stopped := true
        else
          c := c.emit (c.window.getD (c.index - 1) 0)
          if (c.index : Int) < c.maxInsertIndex then c := c.insert c.index
          c := { c with index := c.index + 1 }
    c := { c with tokens := c.tokens.addLiteral (c.window.getD (c.index - 1) 0),
                  byteAvailable := false }
    if c.tokens.count == maxBlockTokens then c := c.flushTokens
  return c

/-- Run the matcher over the window as far as the lookahead allows: to within 262 bytes of
its end, or, when flushing, to its end, writing what is gathered. -/
def step (c0 : Chains) : Chains := Id.run do
  let mut c := c0
  if c.windowEnd - c.index < 262 && !c.sync then return c
  if c.windowEnd != c.index && c.params.chain > 100 then
    let hist := (c.window.extract c.index c.windowEnd).foldl (fun h b => bump h b.toNat)
      (Array.replicate 256 0)
    c := { c with codes := generate c.codes hist 15 }
  c := { c with maxInsertIndex := (c.windowEnd : Int) - 3 }
  for _ in [0:c.windowEnd - c.index + 2] do
    let lookahead := c.windowEnd - c.index
    if lookahead < 262 then
      if !c.sync then break
      if lookahead == 0 then
        if c.byteAvailable then
          c := { c with tokens := c.tokens.addLiteral (c.window.getD (c.index - 1) 0),
                        byteAvailable := false }
        if c.tokens.count > 0 then c := c.flushTokens
        break
    if (c.index : Int) < c.maxInsertIndex then c := c.insert c.index
    let prevLength := c.length
    let prevOffset := c.offset
    c := { c with length := 3, offset := 0 }
    let minIndex : Int := max ((c.index : Int) - halfWindow) 0
    if c.chainHead - c.hashOffset ≥ minIndex && lookahead > prevLength &&
        prevLength < c.params.lazy then
      let (nl, no, ok) := c.findMatch c.index (c.chainHead - c.hashOffset).toNat lookahead
      if ok then c := { c with length := nl, offset := no }
    if prevLength ≥ 4 && c.length ≤ prevLength then
      c := c.writeMatch prevLength prevOffset lookahead
    else
      c := c.writeLiteral
  return c

/-- Take bytes from `data` at `pos` into the window, first moving its upper half down when the
position is near its end; also how many were taken. -/
def fill (c0 : Chains) (data : Array UInt8) (pos : Nat) : Chains × Nat := Id.run do
  let mut c := c0
  if c.index ≥ 2 * halfWindow - 262 then
    let upper := c.window.extract halfWindow (2 * halfWindow)
    c := { c with window := upper ++ upper, index := c.index - halfWindow,
                  windowEnd := c.windowEnd - halfWindow,
                  blockStart := if c.blockStart ≥ halfWindow then c.blockStart - halfWindow
                    else noStart,
                  hashOffset := c.hashOffset + halfWindow }
    if c.hashOffset > Nat.pow 2 28 then
      let delta := c.hashOffset - 1
      let lower (v : Nat) : Nat := if v > delta then v - delta else 0
      c := { c with hashOffset := c.hashOffset - delta, chainHead := c.chainHead - delta,
                    hashPrev := c.hashPrev.map lower, hashHead := c.hashHead.map lower }
  let n := min (data.size - pos) (2 * halfWindow - c.windowEnd)
  let window := c.window.extract 0 c.windowEnd ++ data.extract pos (pos + n) ++
    c.window.extract (c.windowEnd + n) (2 * halfWindow)
  ({ c with window, windowEnd := c.windowEnd + n }, n)

end Chains

/-- Write all of `data` through the chain-searching matcher of a level, flush it, and return
the block writer. -/
def writeLazy (level : Nat) (data : Array UInt8) : BlockWriter := Id.run do
  let mut c : Chains := { params := lazyParams level }
  let mut pos := 0
  for _ in [0:data.size + 2] do
    if pos < data.size then
      if c.windowEnd == 2 * halfWindow || c.sync then c := c.step
      let (c1, n) := c.fill data pos
      c := c1
      pos := pos + n
  c := { c with sync := true }.step
  return c.writer

theorem lazyParams_nine : lazyParams 9 = ⟨258, 258, 1024⟩ := rfl

end EInvoice.Deflate
