import EInvoice.Deflate.Fast.Basic

/-!
# The matcher with two candidates per hash (level 3)

Five bytes are hashed into a table of 2^16 entries, and each entry remembers the position it
replaced, so every probe has two candidates; when both match, the longer wins. Probing grows
sparser slowly (one more byte skipped per 128 without a match). After a match every sixth
position inside it is recorded, then the two positions before its end, and the position right
after it is tried at once.
-/

namespace EInvoice.Deflate

/-- The smallest table entry still in reach from `s` for a four-byte match. -/
def minEntry (cur s reach : Int) : Int := cur + s - (reach - 4)

/-- Tokens for `block`, appended to the matcher's history, with two candidates per hash. -/
def encodeTwoCandidates (st : FastState) (block : Array UInt8) : FastState × Tokens := Id.run do
  let (hist, start) := st.history.add block maxDistance.toNat
  let src := hist.bytes
  let cur := hist.cur
  let mut st := { st with history := hist }
  let mut dst : Tokens := {}
  if block.size < 13 then
    return (st, dst.addLiterals src start src.size)
  let sLimit : Int := src.size - 11
  let tb := 16
  let hb := 5
  let reach := maxDistance
  let mut nextEmit : Int := start
  let mut s : Int := start
  let mut cv := load64 src s
  let mut done := false
  for _ in [0:src.size + 2] do
    if done then break
    let mut nextS := s
    let mut cand : Int := 0
    let mut found := false
    for _ in [0:src.size + 2] do
      let nh := hashLen cv tb hb
      s := nextS
      nextS := s + 1 + (s - nextEmit) / 128
      if nextS > sLimit then break
      let curC := st.table.getD nh 0
      let prevC := st.prev.getD nh 0
      let now := load64 src nextS
      let minOffset := minEntry cur s reach
      st := st.setShort nh (s + cur)
      if curC < minOffset then
        cv := now
        continue
      if low32 cv == load32 src (curC - cur) then
        cand := curC
        if prevC ≥ minOffset && low32 cv == load32 src (prevC - cur) then
          let l1 := agreeing src (s + 4).toNat (curC - cur + 4).toNat (src.size - (s + 4).toNat)
          let l2 := agreeing src (s + 4).toNat (prevC - cur + 4).toNat (src.size - (s + 4).toNat)
          if l2 > l1 then cand := prevC
        found := true
        break
      else if prevC > minOffset && low32 cv == load32 src (prevC - cur) then
        cand := prevC
        found := true
        break
      cv := now
    if !found then
      done := true
    else
      for _ in [0:src.size + 2] do
        let t := cand - cur
        let l0 := matchLong src (s + 4) (t + 4) + 4
        let (s1, t1, l) := extendBack src nextEmit s t l0
        dst := dst.addLiterals src nextEmit.toNat s1.toNat
        dst := dst.addCopyLong l.toNat (s1 - t1).toNat
        s := s1 + l
        nextEmit := s
        if nextS ≥ s then s := nextS + 1
        if s ≥ sLimit then
          let te := t1 + l
          if te + 8 < src.size && te > 0 then
            st := st.setShort (hashLen (load64 src te) tb hb) (cur + te)
          done := true
          break
        let mut i := s - l + 2
        for _ in [0:l.toNat] do
          if i < s - 5 then
            st := st.setShort (hashLen (load64 src i) tb hb) (cur + i)
            i := i + 6
        let x := load64 src (s - 2)
        st := st.setShort (hashLen x tb hb) (cur + s - 2)
        st := st.setShort (hashLen (x >>> 8) tb hb) (cur + s - 1)
        let x2 := x >>> 16
        let ch := hashLen x2 tb hb
        let curC := st.table.getD ch 0
        let prevC := st.prev.getD ch 0
        cv := x2
        st := st.setShort ch (s + cur)
        let minOffset := minEntry cur s reach
        let mut again := false
        if curC > minOffset then
          if low32 cv == load32 src (curC - cur) then
            cand := curC
            again := true
          else if prevC > minOffset && low32 cv == load32 src (prevC - cur) then
            cand := prevC
            again := true
        if !again then
          cv := x2 >>> 8
          s := s + 1
          break
  if nextEmit < src.size && dst.count > 0 then
    dst := dst.addLiterals src nextEmit.toNat src.size
  return (st, dst)

theorem minEntry_self (cur s : Int) : minEntry cur s 4 = cur + s := by
  simp [minEntry]

end EInvoice.Deflate
