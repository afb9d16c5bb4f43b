import EInvoice.Deflate.Fast.Basic

/-!
# Matchers with a short and a long table (levels 4 to 6)

Four bytes are hashed into a short table and seven into a long one (2^15 entries each). A
candidate from the long table is preferred; with a short match the next position's long
candidate is tried too, and the longer match wins. Level 5 and 6 keep two long candidates per
hash, and after a short match look for a longer one that ends where it ends. Level 6 also
tries to repeat the distance of the last match, and records more positions inside matches.
-/

namespace EInvoice.Deflate

/-- The short table's hash of the low four bytes. -/
def shortHash (u : UInt64) : Nat := hashLen u 15 4

/-- The long table's hash of the low seven bytes. -/
def longHash (u : UInt64) : Nat := hash7 u 15

/-- Tokens for `block` at level 4. -/
def encodeLevelFour (st : FastState) (block : Array UInt8) : FastState × Tokens := Id.run do
  let (hist, start) := st.history.add block maxDistance.toNat
  let src := hist.bytes
  let cur := hist.cur
  let mut table := st.table
  let mut long := st.long
  let mut dst : Tokens := {}
  if block.size < 13 then
    return ({ st with history := hist }, dst.addLiterals src start src.size)
  let sLimit : Int := src.size - 11
  let reach := maxDistance
  let mut nextEmit : Int := start
  let mut s : Int := start
  let mut cv := load64 src s
  let mut done := false
  for _ in [0:src.size + 2] do
    if done then break
    let mut nextS := s
    let mut t : Int := 0
    let mut found := false
    for _ in [0:src.size + 2] do
      let nhS := shortHash cv
      let nhL := longHash cv
      s := nextS
      nextS := s + 1 + (s - nextEmit) / 64
      if nextS > sLimit then break
      let sCand := table.getD nhS 0
      let lCand := long.getD nhL 0
      let next := load64 src nextS
      table := table.set! nhS (s + cur)
      long := long.set! nhL (s + cur)
      t := lCand - cur
      if s - t < reach && low32 cv == load32 src t then
        found := true
        break
      t := sCand - cur
      if s - t < reach && low32 cv == load32 src t then
        let lNext := long.getD (longHash next) 0
        let lOff := nextS - (lNext - cur)
        if lOff < reach && load32 src (lNext - cur) == low32 next then
          let l1 := agreeing src (s + 4).toNat (t + 4).toNat (src.size - (s + 4).toNat)
          let l2 := agreeing src (nextS + 4).toNat (nextS - lOff + 4).toNat
            (src.size - (nextS + 4).toNat)
          if l2 > l1 then
            s := nextS
            t := lNext - cur
        found := true
        break
      cv := next
    if !found then
      done := true
    else
      let l0 := matchLong src (s + 4) (t + 4) + 4
      let (s1, t1, l) := extendBack src nextEmit s t l0
      dst := dst.addLiterals src nextEmit.toNat s1.toNat
      dst := dst.addCopyLong l.toNat (s1 - t1).toNat
      s := s1 + l
      nextEmit := s
      if nextS ≥ s then s := nextS + 1
      if s ≥ sLimit then
        if s + 8 < src.size then
          let x := load64 src s
          table := table.set! (shortHash x) (s + cur)
          long := long.set! (longHash x) (s + cur)
        done := true
      else
        let mut i := nextS
        for _ in [0:src.size + 2] do
          if i ≥ s - 1 then break
          let x := load64 src i
          long := long.set! (longHash x) (i + cur)
          long := long.set! (longHash (x >>> 8)) (i + cur + 1)
          table := table.set! (shortHash (x >>> 8)) (i + cur + 1)
          i := i + 3
        let x := load64 src (s - 1)
        table := table.set! (shortHash x) (cur + s - 1)
        long := long.set! (longHash x) (cur + s - 1)
        cv := x >>> 8
  if nextEmit < src.size && dst.count > 0 then
    dst := dst.addLiterals src nextEmit.toNat src.size
  return ({ st with history := hist, table, long }, dst)

/-- Look for a longer match ending where the match at `s` (from `t`, `l` bytes) ends, through
the long candidates of the bytes after its end; the first two bytes of the match need not
agree. With `both`, the entry each long entry replaced is tried too. -/
def betterEnd (st : FastState) (src : Array UInt8) (cur reach sLimit s t l : Int) (both : Bool) :
    Int × Int × Int := Id.run do
  let sAt := s + l
  if sAt ≥ sLimit then return (s, t, l)
  let h := longHash (load64 src sAt)
  let s2 := s + 2
  let mut res := (s, t, l)
  let t2 := st.long.getD h 0 - cur - l + 2
  let off := s2 - t2
  if both then
    if off < reach then
      if off > 0 && t2 ≥ 0 then
        let l2 := matchLong src s2 t2
        if l2 > l then res := (s2, t2, l2)
      let t3 := st.longPrev.getD h 0 - cur - res.2.2 + 2
      let off3 := s2 - t3
      if off3 > 0 && off3 < reach && t3 ≥ 0 then
        let l3 := matchLong src s2 t3
        if l3 > res.2.2 then res := (s2, t3, l3)
  else if t2 ≥ 0 && off < reach && off > 0 then
    let l2 := matchLong src s2 t2
    if l2 > l then res := (s2, t2, l2)
  return res

/-- Tokens for `block` at level 5, or at level 6 with `six`. -/
def encodeShortLong (six : Bool) (st0 : FastState) (block : Array UInt8) :
    FastState × Tokens := Id.run do
  let (hist, start) := st0.history.add block st0.reach.toNat
  let src := hist.bytes
  let cur := hist.cur
  let reach := st0.reach
  let mut st := { st0 with history := hist }
  let mut dst : Tokens := {}
  if block.size < 13 then
    return (st, dst.addLiterals src start src.size)
  let sLimit : Int := src.size - 11
  let skip : Int := if six then 128 else 64
  let mut nextEmit : Int := start
  let mut s : Int := start
  let mut cv := load64 src s
  let mut lastDist : Int := 1
  let mut done := false
  for _ in [0:src.size + 2] do
    if done then break
    let mut nextS := s
    let mut l : Int := 0
    let mut t : Int := 0
    let mut found := false
    for _ in [0:src.size + 2] do
      let nhS0 := shortHash cv
      let nhL0 := longHash cv
      s := nextS
      nextS := s + 1 + (s - nextEmit) / skip
      if nextS > sLimit then break
      let sCand := st.table.getD nhS0 0
      let lCur := st.long.getD nhL0 0
      let lPrev := st.longPrev.getD nhL0 0
      let next := load64 src nextS
      st := { st with table := st.table.set! nhS0 (s + cur) }
      st := st.setLong nhL0 (s + cur)
      let nhS := shortHash next
      let nhL := longHash next
      t := lCur - cur
      if s - t < reach then
        if low32 cv == load32 src t then
          st := { st with table := st.table.set! nhS (nextS + cur) }
          st := st.setLong nhL (nextS + cur)
          let t2 := lPrev - cur
          if s - t2 < reach && low32 cv == load32 src t2 then
            l := matchShort src (s + 4) (t + 4) + 4
            let ml1 := matchShort src (s + 4) (t2 + 4) + 4
            if ml1 > l then
              t := t2
              l := ml1
          found := true
          break
        t := lPrev - cur
        if s - t < reach && low32 cv == load32 src t then
          st := { st with table := st.table.set! nhS (nextS + cur) }
          st := st.setLong nhL (nextS + cur)
          found := true
          break
      t := sCand - cur
      if s - t < reach && low32 cv == load32 src t then
        l := matchShort src (s + 4) (t + 4) + 4
        let lCur2 := st.long.getD nhL 0
        let lPrev2 := st.longPrev.getD nhL 0
        st := { st with table := st.table.set! nhS (nextS + cur) }
        st := st.setLong nhL (nextS + cur)
        if six then
          let t2 := s - lastDist + 1
          if load32 src t2 == low32 (cv >>> 8) then
            let ml := matchShort src (s + 5) (t2 + 4) + 4
            if ml > l then
              t := t2
              l := ml
              s := s + 1
              found := true
              break
        let t2 := lCur2 - cur
        if nextS - t2 < reach then
          if load32 src t2 == low32 next then
            let ml := matchShort src (nextS + 4) (t2 + 4) + 4
            if ml > l then
              t := t2
              s := nextS
              l := ml
              if !six then
                found := true
                break
          let t3 := lPrev2 - cur
          if nextS - t3 < reach && load32 src t3 == low32 next then
            let ml := matchShort src (nextS + 4) (t3 + 4) + 4
            if ml > l then
              t := t3
              s := nextS
              l := ml
              found := true
              break
        found := true
        break
      cv := next
    if !found then
      done := true
    else
      if l == 0 then l := matchLong src (s + 4) (t + 4) + 4
      else if l == 258 then l := l + matchLong src (s + l) (t + l)
      if six || l < 30 then
        let (s2, t2, l2) := betterEnd st src cur reach sLimit s t l six
        s := s2
        t := t2
        l := l2
      let (s1, t1, l1) := extendBack src nextEmit s t l
      dst := dst.addLiterals src nextEmit.toNat s1.toNat
      dst := dst.addCopyLong l1.toNat (s1 - t1).toNat
      lastDist := s1 - t1
      l := l1
      s := s1 + l1
      nextEmit := s
      if nextS ≥ s then s := nextS + 1
      if s ≥ sLimit then
        if six then
          let mut i := nextS + 1
          for _ in [0:src.size + 2] do
            if i ≥ src.size - 8 then break
            let x := load64 src i
            st := { st with table := st.table.set! (shortHash x) (i + cur) }
            st := st.setLong (longHash x) (i + cur)
            i := i + 2
        done := true
      else if six then
        let mut i := nextS + 1
        for _ in [0:src.size + 2] do
          if i ≥ s - 1 then break
          let x := load64 src i
          let e := i + cur
          st := { st with table := st.table.set! (shortHash x) e }
          st := st.setLong (longHash x) e
          st := st.setLong (longHash (x >>> 8)) (e + 1)
          i := i + 2
        cv := load64 src s
      else
        let mut i := s - l + 1
        if i < s - 1 then
          let x := load64 src i
          let e := i + cur
          st := { st with table := st.table.set! (shortHash x) e }
          st := st.setLong (longHash x) e
          st := st.setLong (longHash (x >>> 8)) (e + 1)
          st := { st with table := st.table.set! (shortHash (x >>> 16)) (e + 2) }
          i := i + 4
          for _ in [0:src.size + 2] do
            if i ≥ s - 1 then break
            let y := load64 src i
            st := st.setLong (longHash y) (i + cur)
            st := { st with table := st.table.set! (shortHash (y >>> 8)) (i + cur + 1) }
            i := i + 3
        let x := load64 src (s - 1)
        st := { st with table := st.table.set! (shortHash x) (cur + s - 1) }
        st := st.setLong (longHash x) (cur + s - 1)
        cv := x >>> 8
  if nextEmit < src.size && dst.count > 0 then
    dst := dst.addLiterals src nextEmit.toNat src.size
  return (st, dst)

/-- The short hash indexes a table of 2^15 entries. -/
theorem shortHash_lt (u : UInt64) : shortHash u < 32768 := by
  have h := (u.toUInt32 * 2654435761).toNat_lt
  simp only [shortHash, hashLen, UInt32.toNat_shiftRight, Nat.shiftRight_eq_div_pow]
  simp
  omega

example : shortHash 0 = 0 := by decide

end EInvoice.Deflate
