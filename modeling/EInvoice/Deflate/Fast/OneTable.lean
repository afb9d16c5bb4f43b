import EInvoice.Deflate.Fast.Basic

/-!
# Matchers with one table (levels 1 and 2)

Both hash five bytes into a single table and look for a four-byte match at each probed
position, checking two positions per step and probing more sparsely the longer no match has
been found. A match is extended forwards to the end of the input and backwards over the bytes
not yet emitted; after it, the positions just before its end are recorded and the position
right after it is tried at once. Level 2 has a larger table and also records positions inside
each match.
-/

namespace EInvoice.Deflate

/-- The parameters that tell level 1 and level 2 apart: table size in bits, whether positions
inside a match are recorded, and whether a match found at the second position of a step
moves that position's entry one on. -/
structure OneTable where
  bits : Nat
  fillInside : Bool
  markSecond : Bool

/-- Tokens for `block`, appended to the matcher's history, with one table. -/
def encodeOneTable (p : OneTable) (st : FastState) (block : Array UInt8) :
    FastState × Tokens := Id.run do
  let (hist, start) := st.history.add block maxDistance.toNat
  let src := hist.bytes
  let cur := hist.cur
  let mut table := st.table
  let mut dst : Tokens := {}
  if block.size < 13 then
    return ({ st with history := hist }, dst.addLiterals src start src.size)
  let sLimit : Int := src.size - 11
  let hb := 5
  let tb := p.bits
  let mut nextEmit : Int := start
  let mut s : Int := start
  let mut cv := load64 src s
  let mut done := false
  for _ in [0:src.size + 2] do
    if done then break
    let mut nextS := s
    let mut t : Int := 0
    let mut found := false
    for _ in [0:src.size + 2] do
      let nh := hashLen cv tb hb
      nextS := s + 2 + (s - nextEmit) / 32
      if nextS > sLimit then break
      let cand := table.getD nh 0
      let now := load64 src nextS
      table := table.set! nh (s + cur)
      let nh2 := hashLen now tb hb
      t := cand - cur
      if s - t < maxDistance && low32 cv == load32 src t then
        table := table.set! nh2 (nextS + cur)
        found := true
        break
      cv := now
      s := nextS
      nextS := nextS + 1
      let cand2 := table.getD nh2 0
      let now2 := now >>> 8
      table := table.set! nh2 (s + cur)
      t := cand2 - cur
      if s - t < maxDistance && low32 cv == load32 src t then
        if p.markSecond then table := table.set! nh2 (nextS + cur)
        found := true
        break
      cv := now2
      s := nextS
    if !found then
      done := true
    else
      for _ in [0:src.size + 2] do
        let l0 := matchLong src (s + 4) (t + 4) + 4
        let (s1, t1, l) := extendBack src nextEmit s t l0
        dst := dst.addLiterals src nextEmit.toNat s1.toNat
        dst := dst.addCopyLong l.toNat (s1 - t1).toNat
        s := s1 + l
        nextEmit := s
        if nextS ≥ s then s := nextS + 1
        if s ≥ sLimit then
          if s + l + 8 < src.size then
            table := table.set! (hashLen (load64 src s) tb hb) (s + cur)
          done := true
          break
        if p.fillInside then
          let mut i := s - l + 2
          for _ in [0:l.toNat] do
            if i < s - 5 then
              let x := load64 src i
              table := table.set! (hashLen x tb hb) (cur + i)
              table := table.set! (hashLen (x >>> 16) tb hb) (cur + i + 2)
              table := table.set! (hashLen (x >>> 32) tb hb) (cur + i + 4)
              i := i + 7
        let x := load64 src (s - 2)
        let o := cur + s - 2
        table := table.set! (hashLen x tb hb) o
        if p.fillInside then table := table.set! (hashLen (x >>> 8) tb hb) (o + 1)
        let x16 := x >>> 16
        let ch := hashLen x16 tb hb
        let cand := table.getD ch 0
        table := table.set! ch (o + 2)
        t := cand - cur
        if s - t > maxDistance || low32 x16 != load32 src t then
          cv := x16 >>> 8
          s := s + 1
          break
  if nextEmit < src.size && dst.count > 0 then
    dst := dst.addLiterals src nextEmit.toNat src.size
  return ({ st with history := hist, table }, dst)

/-- Level 1: a table of 2^15 entries. -/
def levelOne : OneTable := ⟨15, false, true⟩

/-- Level 2: a table of 2^17 entries, filled inside matches too. -/
def levelTwo : OneTable := ⟨17, true, false⟩

example : levelOne.bits = 15 := rfl

end EInvoice.Deflate
