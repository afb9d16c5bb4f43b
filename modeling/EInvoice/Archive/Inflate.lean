import EInvoice.Text.Utf8

/-!
# Inflating

Reading a deflate stream (RFC 1951) the way a streaming decoder does: bytes are taken from
the input only when the bits buffered so far are too few, one at a time, so that the number
of bytes taken says how far the decoder got. A corrupt stream is reported with that number;
a stream that ends too early as `unexpected EOF`. Either way, what was decoded before the
fault is kept.

A prefix code is decoded by first buffering as many bits as its shortest code has (for the
literal code of a dynamic block, at least as many as the end-of-block code has, and ten more
when the block is not the last), then as many
as the code matching the buffered bits (read as if the missing bits were zeros) has, until
the matching code fits in the buffered bits. A code matching nothing is corrupt.

A code read from lengths must be complete, or be a single code of length one. In the offsets
reported after a stored block, the whole bytes still buffered when the block started are
counted once more.
-/

namespace EInvoice.Archive

open EInvoice.Text

/-- Why a deflate stream cannot be read. -/
inductive InflateError where
  /-- corrupt input, noticed after that many bytes -/
  | corrupt (offset : Nat)
  /-- the stream ends too early -/
  | truncated
  deriving Repr, DecidableEq

/-- The text of an inflate error. -/
def InflateError.message : InflateError → String
  | .corrupt o => "flate: corrupt input before offset " ++ toString o
  | .truncated => "unexpected EOF"

/-- The compressed bytes as a stream of bits, least significant bit of each byte first. -/
structure BitStream where
  input : Array UInt8
  /-- bytes taken from the input -/
  pos : Nat := 0
  /-- the offset reported with corrupt input -/
  offset : Nat := 0
  /-- the buffered bits, the next one lowest -/
  buf : Nat := 0
  /-- how many bits are buffered -/
  count : Nat := 0

/-- Take one more byte into the buffer. -/
def BitStream.more (s : BitStream) : Except InflateError BitStream :=
  if h : s.pos < s.input.size then
    .ok { s with pos := s.pos + 1, offset := s.offset + 1,
                 buf := s.buf + s.input[s.pos].toNat * Nat.pow 2 s.count, count := s.count + 8 }
  else .error .truncated

/-- Buffer at least `n` bits. -/
def BitStream.need (s : BitStream) (n : Nat) : Except InflateError BitStream :=
  go (n / 8 + 1) s
where
  go : Nat → BitStream → Except InflateError BitStream
    | 0, s => .ok s
    | k + 1, s => if s.count < n then s.more.bind (go k) else .ok s

/-- The next `n` buffered bits as a number, and the stream after them. -/
def BitStream.take (s : BitStream) (n : Nat) : Nat × BitStream :=
  (s.buf % Nat.pow 2 n, { s with buf := s.buf / Nat.pow 2 n, count := s.count - n })

/-- The next `n` bits as a number, buffering them first. -/
def BitStream.bits (s : BitStream) (n : Nat) : Except InflateError (Nat × BitStream) :=
  (s.need n).map (·.take n)

/-! ## Prefix codes -/

/-- A canonical prefix code: how many codes each length from 1 to 15 has (`counts[l]`), the
symbols in code order, and the number of bits buffered before the first lookup. -/
structure Code where
  counts : Array Nat
  symbols : Array Nat
  shortest : Nat
  deriving Repr

/-- The code of the given lengths (symbol `i` has length `lengths[i]`, `0` for none), if
it is complete or a single code of length one. -/
def Code.ofLengths (lengths : List Nat) : Option Code :=
  let counts := (List.range 16).map fun l => (lengths.filter (· = l)).length
  let used := lengths.filter (· ≠ 0)
  let longest := used.foldl max 0
  let shortest := used.foldl min longest
  let symbols := (List.range 16).flatMap fun l =>
    if l = 0 then [] else ((lengths.zip (List.range lengths.length)).filter (·.1 = l)).map (·.2)
  let space := (List.range 16).foldl (fun acc l => if l = 0 then acc else
    acc + counts.getD l 0 * Nat.pow 2 (longest - l)) 0
  if longest = 0 then some ⟨counts.toArray, symbols.toArray, 0⟩
  else if space = Nat.pow 2 longest ∨ (space = 1 ∧ longest = 1) then some ⟨counts.toArray, symbols.toArray, shortest⟩
  else none

/-- The code matching the low bits of `bits` (bits past the buffered ones read as zeros):
its length and symbol. -/
def Code.lookup (c : Code) (bits : Nat) : Option (Nat × Nat) :=
  go 1 15 (bits % 2) (bits / 2) 0 0
where
  go (len : Nat) : Nat → Nat → Nat → Nat → Nat → Option (Nat × Nat)
    | 0, _, _, _, _ => none
    | fuel + 1, code, rest, first, index =>
      let count := c.counts.getD len 0
      if code < first + count then some (len, c.symbols.getD (index + code - first) 0)
      else go (len + 1) fuel ((code * 2) + rest % 2) (rest / 2) ((first + count) * 2) (index + count)

/-- Decode one symbol. -/
def Code.read (c : Code) (s : BitStream) : Except InflateError (Nat × BitStream) :=
  go 16 c.shortest s
where
  go : Nat → Nat → BitStream → Except InflateError (Nat × BitStream)
    | 0, _, s => .error (.corrupt s.offset)
    | fuel + 1, n, s => do
      let s ← s.need n
      match c.lookup s.buf with
      | none => .error (.corrupt s.offset)
      | some (len, sym) => if len ≤ s.count then pure (sym, (s.take len).2) else go fuel len s

/-- The fixed literal/length code. -/
def fixedLiterals : Code :=
  (Code.ofLengths (List.replicate 144 8 ++ List.replicate 112 9 ++ List.replicate 24 7 ++
    List.replicate 8 8)).getD ⟨#[], #[], 0⟩

/-- The order in which the lengths of the code-length code are given. -/
def codeLengthOrder : List Nat := [16, 17, 18, 0, 8, 7, 9, 6, 10, 5, 11, 4, 12, 3, 13, 2, 14, 1, 15]

/-! ## Dynamic block headers -/

/-- Read `n` code lengths with the code-length code. -/
def readLengths (cl : Code) (n : Nat) : Nat → BitStream → List Nat → Except InflateError (List Nat × BitStream)
  | 0, s, acc => .ok (acc, s)
  | fuel + 1, s, acc =>
    if acc.length ≥ n then .ok (acc, s) else do
    let (x, s) ← cl.read s
    if x < 16 then readLengths cl n fuel s (acc ++ [x]) else
    if x = 16 ∧ acc.isEmpty then .error (.corrupt s.offset) else
    let (base, extra, value) :=
      if x = 16 then (3, 2, acc.getLastD 0) else if x = 17 then (3, 3, 0) else (11, 7, 0)
    let (more, s) ← s.bits extra
    let rep := base + more
    if acc.length + rep > n then .error (.corrupt s.offset)
    else readLengths cl n fuel s (acc ++ List.replicate rep value)

/-- Read the codes of a dynamic block: the literal/length code and the distance code. Before
its first lookup the literal code buffers as many bits as the end-of-block code has, and ten
more when the block is not the final one (a block must follow, and the shortest block takes
ten bits). -/
def readDynamicCodes (final : Bool) (s : BitStream) : Except InflateError (Code × Code × BitStream) := do
  let s ← s.need 14
  let nlit := s.buf % 32 + 257
  if nlit > 286 then .error (.corrupt s.offset)
  let ndist := s.buf / 32 % 32 + 1
  if ndist > 30 then .error (.corrupt s.offset)
  let nclen := s.buf / 1024 % 16 + 4
  let s := (s.take 14).2
  let (given, s) ← (List.range nclen).foldlM (fun (acc, s) _ => do
    let (v, s) ← s.bits 3
    pure (acc ++ [v], s)) ([], s)
  let lengths := (List.range 19).map fun sym =>
    match codeLengthOrder.idxOf? sym with
    | some i => given.getD i 0
    | none => 0
  let some cl := Code.ofLengths lengths | .error (.corrupt s.offset)
  let (all, s) ← readLengths cl (nlit + ndist) (nlit + ndist + 1) s []
  match Code.ofLengths (all.take nlit), Code.ofLengths (all.drop nlit) with
  | some lit, some dist =>
    let eob := all.getD 256 0
    pure ({ lit with shortest := max lit.shortest eob + (if final then 0 else 10) }, dist, s)
  | _, _ => .error (.corrupt s.offset)

/-! ## Blocks -/

/-- The length of a length symbol (257 to 285): its base and number of extra bits. -/
def lengthOf (v : Nat) : Nat × Nat :=
  if v < 265 then (v - 254, 0)
  else if v < 269 then (2 * v - 519, 1)
  else if v < 273 then (4 * v - 1057, 2)
  else if v < 277 then (8 * v - 2149, 3)
  else if v < 281 then (16 * v - 4365, 4)
  else if v < 285 then (32 * v - 8861, 5)
  else (258, 0)

/-- The five bits of a fixed distance code, most significant first. -/
def reverse5 (b : Nat) : Nat :=
  (b % 2) * 16 + (b / 2 % 2) * 8 + (b / 4 % 2) * 4 + (b / 8 % 2) * 2 + b / 16 % 2

/-- The size of the window: how far back a distance may reach. -/
def windowSize : Nat := 32768

/-- Append `len` bytes copied from `dist` bytes back. -/
def copyBack (out : Array UInt8) (dist : Nat) : Nat → Array UInt8
  | 0 => out
  | len + 1 => copyBack (out.push (out.getD (out.size - dist) 0)) dist len

/-- What the decoder does next. -/
inductive Phase where
  /-- read a block header -/
  | header
  /-- decode symbols of a block with these codes (no distance code: the fixed one) -/
  | symbols (lit : Code) (dist : Option Code) (final : Bool)

/-- Read a distance. -/
def readDistance (dist : Option Code) (s : BitStream) : Except InflateError (Nat × BitStream) := do
  let (sym, s) ← match dist with
    | none => (s.bits 5).map fun (b, s) => (reverse5 b, s)
    | some d => d.read s
  if sym < 4 then pure (sym + 1, s)
  else if sym < 30 then
    let nb := (sym - 2) / 2
    let (more, s) ← s.bits nb
    pure (Nat.pow 2 (nb + 1) + 1 + (sym % 2) * Nat.pow 2 nb + more, s)
  else .error (.corrupt s.offset)

/-- Copy a stored block. -/
def storedBlock (s : BitStream) (out : Array UInt8) :
    Except (Array UInt8 × InflateError) (BitStream × Array UInt8) :=
  let whole := s.count / 8
  let kept := s.buf / Nat.pow 2 (s.count % 8)
  let offset := s.offset + whole
  let wanted := 4 - whole
  let avail := min wanted (s.input.size - s.pos)
  let header := (List.range whole).map (fun i => kept / Nat.pow 2 (8 * i) % 256) ++
    ((List.range avail).map fun i => (s.input.getD (s.pos + i) 0).toNat)
  let s := { s with pos := s.pos + avail, offset := offset + avail, buf := 0, count := 0 }
  if avail < wanted then .error (out, .truncated) else
  let n := header.getD 0 0 + header.getD 1 0 * 256
  let nn := header.getD 2 0 + header.getD 3 0 * 256
  if nn ≠ 65535 - n then .error (out, .corrupt s.offset) else
  let got := min n (s.input.size - s.pos)
  let out := (List.range got).foldl (fun o i => o.push (s.input.getD (s.pos + i) 0)) out
  let s := { s with pos := s.pos + got, offset := s.offset + got }
  if got < n then .error (out, .truncated) else .ok (s, out)

/-- Decode blocks until the final one ends, at most `fuel` steps. -/
def run : Nat → BitStream → Array UInt8 → Phase → Array UInt8 × Option InflateError
  | 0, _, out, _ => (out, some .truncated)
  | fuel + 1, s, out, .header =>
    match s.bits 3 with
    | .error e => (out, some e)
    | .ok (h, s) =>
      let final := h % 2 = 1
      match h / 2 with
      | 0 =>
        match storedBlock s out with
        | .error (out, e) => (out, some e)
        | .ok (s, out) => if final then (out, none) else run fuel s out .header
      | 1 => run fuel s out (.symbols fixedLiterals none final)
      | 2 =>
        match readDynamicCodes final s with
        | .error e => (out, some e)
        | .ok (lit, dist, s) => run fuel s out (.symbols lit (some dist) final)
      | _ => (out, some (.corrupt s.offset))
  | fuel + 1, s, out, .symbols lit dist final =>
    match lit.read s with
    | .error e => (out, some e)
    | .ok (v, s) =>
      if v < 256 then run fuel s (out.push v.toUInt8) (.symbols lit dist final)
      else if v = 256 then (if final then (out, none) else run fuel s out .header)
      else if v ≥ 286 then (out, some (.corrupt s.offset))
      else
        let (base, extra) := lengthOf v
        match s.bits extra with
        | .error e => (out, some e)
        | .ok (more, s) =>
          match readDistance dist s with
          | .error e => (out, some e)
          | .ok (d, s) =>
            if d > min out.size windowSize then (out, some (.corrupt s.offset))
            else run fuel s (copyBack out d (base + more)) (.symbols lit dist final)

/-- Inflate a deflate stream: what was decoded, and the fault that stopped it, if any. -/
def inflate (input : Bytes) : Bytes × Option InflateError :=
  let (out, e) := run (8 * input.length + 2) { input := input.toArray } #[] .header
  (out.toList, e)

example : inflate [] = ([], some .truncated) := by
  rfl

end EInvoice.Archive
