import EInvoice.Deflate.Code

/-!
# Length-limited Huffman codes

A code for a table of symbol counts, no code longer than a limit. Lengths come from the
package-merge method run level by level (each level holds the cheapest leaves and the
cheapest pairs of the level below); codes are then handed out canonically: shorter codes
first, and among codes of one length in the order of the symbols.

Two symbols or fewer get one-bit codes in the order of the symbols. Symbols with a count of
zero lose their code; entries of the table beyond the counts given keep the code they had.
-/

namespace EInvoice.Deflate

/-- A frequency larger than any count, marking a level with nothing more to offer. -/
def noFreq : Nat := Nat.pow 2 31 - 1

/-- One level of the package-merge run. -/
structure Level where
  lastFreq : Nat := 0
  nextCharFreq : Nat := 0
  nextPairFreq : Nat := 0
  needed : Int := 0
  deriving Inhabited

/-- The state of the package-merge run: its levels, and for each level the number of
leaves left of each ancestor of its rightmost node. -/
structure Merge where
  levels : Array Level
  leafCounts : Array (Array Nat)
  level : Nat
  finished : Bool := false

/-- The count of the `i`-th cheapest symbol, or `noFreq` past the last one. -/
def freqAt (list : Array (Nat × Nat)) (i : Nat) : Nat :=
  if h : i < list.size then list[i].2 else noFreq

/-- The count of the `i`-th cheapest symbol, or a count higher than all when it does not
exist (the slot after the last holds the largest count a table can hold). -/
def leafFreq (list : Array (Nat × Nat)) (i : Nat) : Nat :=
  if h : i < list.size then list[i].2 else 65535

/-- Replace the entry at `i` of a row of the leaf counts. -/
def setCount (rows : Array (Array Nat)) (r i v : Nat) : Array (Array Nat) :=
  rows.modify r (·.set! i v)

/-- One step of the package-merge run at its current level. -/
def Merge.step (list : Array (Nat × Nat)) (maxBits : Nat) (m : Merge) : Merge :=
  let lvl := m.level
  let l := m.levels.getD lvl {}
  if l.nextPairFreq == noFreq && l.nextCharFreq == noFreq then
    let levels := m.levels.set! lvl { l with needed := 0 }
    let up := levels.getD (lvl + 1) {}
    { m with levels := levels.set! (lvl + 1) { up with nextPairFreq := noFreq }, level := lvl + 1 }
  else
    let prevFreq := l.lastFreq
    let (l, leafCounts, levels) :=
      if l.nextCharFreq < l.nextPairFreq then
        let n := (m.leafCounts.getD lvl #[]).getD lvl 0 + 1
        let next := if n < list.size then freqAt list n else noFreq
        ({ l with lastFreq := l.nextCharFreq, nextCharFreq := next },
          setCount m.leafCounts lvl lvl n, m.levels)
      else
        let save := (m.leafCounts.getD lvl #[]).getD lvl 0
        let below := m.leafCounts.getD (lvl - 1) #[]
        let rows := m.leafCounts.set! lvl (below.set! lvl save)
        let down := m.levels.getD (lvl - 1) {}
        ({ l with lastFreq := l.nextPairFreq }, rows,
          m.levels.set! (lvl - 1) { down with needed := 2 })
    let l := { l with needed := l.needed - 1 }
    let levels := levels.set! lvl l
    if l.needed == 0 then
      if lvl == maxBits then { m with levels, leafCounts, finished := true }
      else
        let up := levels.getD (lvl + 1) {}
        { m with levels := levels.set! (lvl + 1) { up with nextPairFreq := prevFreq + l.lastFreq },
                 leafCounts, level := lvl + 1 }
    else
      -- go down while the level below still needs items
      let down := (List.range lvl).foldl (fun (d : Nat × Bool) _ =>
        if d.2 && (levels.getD (d.1 - 1) {}).needed > 0 then (d.1 - 1, true) else (d.1, false))
        (lvl, true)
      { m with levels, leafCounts, level := down.1 }

/-- Run the package-merge steps until the top level is complete. -/
def Merge.run (list : Array (Nat × Nat)) (maxBits : Nat) : Nat → Merge → Merge
  | 0, m => m
  | fuel + 1, m =>
    if m.finished || m.level ≥ 16 then m else Merge.run list maxBits fuel (m.step list maxBits)

/-- How many symbols get each code length (index 0 unused), for symbols sorted by count;
at least three symbols are given. -/
def bitCounts (list : Array (Nat × Nat)) (limit : Nat) : Array Nat := Id.run do
  let n := list.size
  let maxBits := min limit (n - 1)
  let l2f := leafFreq list 2
  let l1f := leafFreq list 1
  let l0f := leafFreq list 0 + leafFreq list 1
  let mut levels : Array Level := Array.replicate 18 {}
  let mut counts : Array (Array Nat) := Array.replicate 18 (Array.replicate 18 0)
  for lvl in [1:maxBits + 1] do
    levels := levels.set! lvl
      { lastFreq := l1f, nextCharFreq := l2f, nextPairFreq := if lvl == 1 then noFreq else l0f }
    counts := setCount counts lvl lvl 2
  let top := levels.getD maxBits {}
  levels := levels.set! maxBits { top with needed := 2 * (n : Int) - 4 }
  let m := Merge.run list maxBits (64 * (n + 2) * (maxBits + 2))
    { levels, leafCounts := counts, level := maxBits }
  let row := m.leafCounts.getD maxBits #[]
  let mut result := Array.replicate (maxBits + 1) 0
  let mut bits := 1
  for i in [0:maxBits] do
    let lvl := maxBits - i
    result := result.set! bits (row.getD lvl 0 - row.getD (lvl - 1) 0)
    bits := bits + 1
  return result

/-- Symbols ordered by count, ties by symbol. -/
def byFreq (a b : Nat × Nat) : Bool := a.2 < b.2 || (a.2 == b.2 && a.1 < b.1)

/-- Hand out canonical codes: for each length, shortest first, the symbols with the highest
counts remaining get the next codes, in the order of the symbols. -/
def assignCodes (codes : Array Code) (counts : Array Nat) (list : Array (Nat × Nat)) :
    Array Code := Id.run do
  let mut codes := codes
  let mut code := 0
  let mut rest := list
  for n in [0:counts.size] do
    code := code * 2
    let bits := counts.getD n 0
    if n != 0 && bits != 0 then
      let chunk := (rest.extract (rest.size - bits) rest.size).qsort (fun a b => a.1 < b.1)
      for node in chunk do
        codes := codes.set! node.1 ⟨reverseBits code n, n⟩
        code := code + 1
      rest := rest.extract 0 (rest.size - bits)
  return codes

/-- Update `codes` for the symbol counts `freq`, no code longer than `maxBits`. -/
def generate (codes : Array Code) (freq : Array Nat) (maxBits : Nat) : Array Code := Id.run do
  let mut codes := codes
  let mut list : Array (Nat × Nat) := #[]
  for i in [0:freq.size] do
    let f := freq.getD i 0
    if f != 0 then list := list.push (i, f)
    else codes := codes.set! i ⟨0, 0⟩
  if list.size ≤ 2 then
    let mut k := 0
    for node in list do
      codes := codes.set! node.1 ⟨k, 1⟩
      k := k + 1
    return codes
  let sorted := list.qsort byFreq
  return assignCodes codes (bitCounts sorted maxBits) sorted

/-- An empty table of `n` codes. -/
def Code.table (n : Nat) : Array Code := Array.replicate n ⟨0, 0⟩

theorem byFreq_irrefl (a : Nat × Nat) : byFreq a a = false := by
  simp [byFreq]

end EInvoice.Deflate
