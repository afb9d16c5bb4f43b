import EInvoice.Deflate.BlockWriter
import EInvoice.Deflate.Fast.OneTable
import EInvoice.Deflate.Fast.TwoCandidates
import EInvoice.Deflate.Fast.ShortLong
import EInvoice.Deflate.Lazy

/-!
# Compressing a stream

The whole input is written at once and the stream then closed. The level picks the method:

* 0 stores the input in blocks of at most 65535 bytes;
* -2 codes every byte as a literal, in blocks of 32768 bytes;
* 1 to 6 (and -1, which means 5) run a fast matcher over blocks of 65535 bytes;
* 7 to 9 search hash chains, deferring each match by a byte to look for a longer one;
* -32 to -32768 run level 5 with copies reaching at most that many bytes back.

Closing flushes what is pending and ends the stream with an empty final block.

Under the fast levels a pending block of fewer than 128 bytes is not matched: up to 32 bytes
are stored, more are coded as literals. A block in which matching saves less than a sixteenth
of the tokens is coded as literals only.
-/

namespace EInvoice.Deflate

/-- How a stream is compressed. -/
inductive Method where
  /-- stored blocks only -/
  | store
  /-- literals only -/
  | huffmanOnly
  /-- a fast matcher, with the longest distance its copies may reach -/
  | fast (level : Nat) (reach : Nat)
  /-- the chain-searching matcher of a level from 7 to 9 -/
  | chains (level : Nat)
  deriving Repr, DecidableEq

/-- The method of a level, or why there is none. -/
def methodOf (level : Int) : Except String Method :=
  if level == 0 then .ok .store
  else if level == -2 then .ok .huffmanOnly
  else if level == -1 then .ok (.fast 5 32768)
  else if 1 ≤ level && level ≤ 6 then .ok (.fast level.toNat 32768)
  else if 7 ≤ level && level ≤ 9 then .ok (.chains level.toNat)
  else if 32 ≤ -level && -level ≤ 32768 then .ok (.fast 5 (-level).toNat)
  else .error ("flate: invalid compression level " ++ toString level ++
    ": want value in range [-2, 9]")

/-- Cut `data` into pieces of `size` bytes, the last one shorter. -/
def pieces (data : Array UInt8) (size : Nat) : List (Array UInt8) :=
  (List.range ((data.size + size - 1) / size)).map fun i =>
    data.extract (i * size) ((i + 1) * size)

/-- Fresh tables for a fast level. -/
def FastState.init (level reach : Nat) : FastState :=
  let small := Array.replicate (Nat.pow 2 15) 0
  match level with
  | 1 => { table := small, reach }
  | 2 => { table := Array.replicate (Nat.pow 2 17) 0, reach }
  | 3 => { table := Array.replicate (Nat.pow 2 16) 0, prev := Array.replicate (Nat.pow 2 16) 0, reach }
  | 4 => { table := small, long := small, reach }
  | _ => { table := small, long := small, longPrev := small, reach }

/-- Run a fast level's matcher over a block. -/
def FastState.encode (level : Nat) (st : FastState) (block : Array UInt8) : FastState × Tokens :=
  match level with
  | 1 => encodeOneTable levelOne st block
  | 2 => encodeOneTable levelTwo st block
  | 3 => encodeTwoCandidates st block
  | 4 => encodeLevelFour st block
  | 5 => encodeShortLong false st block
  | _ => encodeShortLong true st block

/-- Forget the history, moving the offset so that no table entry is in reach. -/
def FastState.reset (st : FastState) : FastState :=
  { st with history := { bytes := #[], cur := st.history.cur + 32768 + st.history.bytes.size } }

/-- Write one pending block of a fast level; `sync` when the stream is being flushed. -/
def fastBlock (level : Nat) (w : BlockWriter) (st : FastState) (block : Array UInt8)
    (sync : Bool) : BlockWriter × FastState :=
  let n := block.size
  if n < maxBlock && n < 128 then
    if n == 0 then (w, st)
    else if n ≤ 32 then (w.stored block false, st.reset)
    else (w.blockHuff false block true, st.reset)
  else
    let (st, tokens) := FastState.encode level st block
    if tokens.count == 0 then (w.stored block false, st)
    else if tokens.count > n - n / 16 then (w.blockHuff false block sync, st)
    else (w.blockDynamic tokens false (some block) sync, st)

/-- Write the blocks of a stream, the last with `sync`, for methods without a matcher that
searches chains. -/
def writeBlocks (m : Method) (w : BlockWriter) (data : Array UInt8) : BlockWriter :=
  match m with
  | .store => (pieces data maxBlock).foldl (fun w p => w.stored p false) w
  | .huffmanOnly =>
    let ps := pieces data 32768
    (ps.zipIdx).foldl (fun w (p, i) => w.blockHuff false p (i + 1 == ps.length)) w
  | .fast level reach =>
    let ps := pieces data maxBlock
    let st := FastState.init level reach
    ((ps.zipIdx).foldl (fun (acc : BlockWriter × FastState) (p, i) =>
      fastBlock level acc.1 acc.2 p (i + 1 == ps.length)) (w, st)).1
  | .chains level => writeLazy level data

/-- The penalty for a new table of each method. -/
def Method.penalty : Method → Nat
  | .huffmanOnly => 10
  | .chains _ => 8
  | _ => 7

/-- The compressed stream of `data` at a level. -/
def compress (level : Int) (data : Array UInt8) : Except String (Array UInt8) := do
  let m ← methodOf level
  let w := writeBlocks m { penalty := m.penalty } data
  let w := w.storedHeader 0 true
  pure w.flush.out.out

theorem methodOf_zero : methodOf 0 = .ok .store := rfl

end EInvoice.Deflate
