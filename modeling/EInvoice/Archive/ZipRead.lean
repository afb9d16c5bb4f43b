import EInvoice.Archive.Crc32
import EInvoice.Archive.Inflate

/-!
# Reading zip archives

An archive is found from its end: the end-of-directory record is the last one whose
signature lies in the final 66 560 bytes, and it is refused when its comment runs past the
end. A zip64 locator just before it, when it points at a zip64 end record, gives the sizes
instead. The directory must start inside the data; when the record's offsets leave room
before it, that room is taken as data prepended to the archive, unless a directory entry is
found at the recorded offset as it stands.

Directory entries are read one after another until one does not start with its signature
(or is cut short); the number read must agree, modulo 65 536, with the record.

An entry is opened at its local header. Directory entries (names ending in `/`) read as
empty, or as malformed when they claim a size. Stored and deflated entries are read to the
end of their data: more bytes than the entry's size is malformed, an error of the
decompressor is that error, fewer bytes than the size is `unexpected EOF`, and last the
CRC-32 is checked against the data descriptor when the entry has one, and against the
directory entry when that records a non-zero CRC.
-/

namespace EInvoice.Archive

open EInvoice.Text

/-- Why an archive or an entry cannot be read. -/
inductive ZipError where
  | format
  | algorithm
  | checksum
  | endOfInput
  | unexpectedEnd
  | negativeOffset
  | inflate (e : InflateError)
  deriving Repr, DecidableEq

/-- The text of a zip error. -/
def ZipError.message : ZipError → String
  | .format => "zip: not a valid zip file"
  | .algorithm => "zip: unsupported compression algorithm"
  | .checksum => "zip: checksum error"
  | .endOfInput => "EOF"
  | .unexpectedEnd => "unexpected EOF"
  | .negativeOffset => "bytes.Reader.ReadAt: negative offset"
  | .inflate e => e.message

/-- A little-endian number. -/
def littleEndian (bs : Bytes) : Nat := bs.foldr (fun b acc => acc * 256 + b.toNat) 0

/-- `n` bytes at an offset of the data; the end of the input when fewer are there. -/
def readAt (data : Bytes) (off : Int) (n : Nat) : Except ZipError Bytes :=
  if off < 0 then .error .negativeOffset
  else
    let got := (data.drop off.toNat).take n
    if got.length < n then .error .endOfInput else .ok got

/-- `n` bytes from the front of a stream: the end of the input when none are left, cut short
when some are. -/
def readFull (s : Bytes) (n : Nat) : Except ZipError (Bytes × Bytes) :=
  if n = 0 then .ok ([], s)
  else if s.isEmpty then .error .endOfInput
  else if s.length < n then .error .unexpectedEnd
  else .ok (s.take n, s.drop n)

/-- An entry of the directory. -/
structure ZipEntry where
  name : Bytes
  flags : Nat
  method : Nat
  crc : Nat
  compressedSize : Nat
  size : Nat
  headerOffset : Int
  deriving Repr, DecidableEq

/-- The zip64 sizes and offset of an entry, read from its extra fields when the directory
entry leaves them at their maximum. -/
def zip64Fields (extra : Bytes) (e : ZipEntry) (needSize needCompressed needOffset : Bool) :
    Nat → Except ZipError ZipEntry
  | 0 => .ok e
  | fuel + 1 =>
    if extra.length < 4 then
      if needCompressed ∨ needOffset then .error .format else .ok e
    else
      let tag := littleEndian (extra.take 2)
      let len := littleEndian ((extra.drop 2).take 2)
      let rest := extra.drop 4
      if rest.length < len then
        if needCompressed ∨ needOffset then .error .format else .ok e
      else
        let field := rest.take len
        if tag ≠ 1 then zip64Fields (rest.drop len) e needSize needCompressed needOffset fuel
        else do
          let (e, field) ← if needSize then
              (if field.length < 8 then .error .format
               else .ok ({ e with size := littleEndian (field.take 8) }, field.drop 8))
            else .ok (e, field)
          let (e, field) ← if needCompressed then
              (if field.length < 8 then .error .format
               else .ok ({ e with compressedSize := littleEndian (field.take 8) }, field.drop 8))
            else .ok (e, field)
          let e ← if needOffset then
              (if field.length < 8 then .error .format
               else .ok { e with headerOffset := (littleEndian (field.take 8) : Int) })
            else .ok e
          zip64Fields (rest.drop len) e false false false fuel

/-- Read one directory entry from the front of a stream. -/
def readDirectoryEntry (s : Bytes) : Except ZipError (ZipEntry × Bytes) := do
  let (h, s) ← readFull s 46
  if littleEndian (h.take 4) ≠ 0x02014b50 then .error .format
  let field := fun (at_ len : Nat) => littleEndian ((h.drop at_).take len)
  let nameLen := field 28 2
  let extraLen := field 30 2
  let commentLen := field 32 2
  let (d, s) ← readFull s (nameLen + extraLen + commentLen)
  let e : ZipEntry := ⟨d.take nameLen, field 8 2, field 10 2, field 16 4, field 20 4, field 24 4,
    (field 42 4 : Int)⟩
  let e ← zip64Fields ((d.drop nameLen).take extraLen) e (e.size = 0xFFFFFFFF)
    (e.compressedSize = 0xFFFFFFFF) (e.headerOffset = 0xFFFFFFFF) (extraLen + 1)
  pure (e, s)

/-- The end-of-directory record: entry count, directory size and offset. -/
structure DirectoryEnd where
  records : Nat
  size : Nat
  offset : Nat
  deriving Repr

/-- The offset of the last end-of-directory signature in a block, if its comment fits. -/
def findEndSignature (block : Bytes) : Option Nat :=
  go (block.length + 1 - 22) (block.length + 1 - 22)
where
  go : Nat → Nat → Option Nat
    | 0, _ => none
    | fuel + 1, i =>
      let i := i - 1
      let at4 := (block.drop i).take 4
      if at4 = [0x50, 0x4B, 0x05, 0x06] then
        let n := littleEndian ((block.drop (i + 20)).take 2)
        if n + 22 + i > block.length then none else some i
      else go fuel i

/-- Read the zip64 end record a locator before `endOffset` points at, if there is one. -/
def zip64End (data : Bytes) (endOffset : Nat) (d : DirectoryEnd) : Except ZipError (Nat × DirectoryEnd) := do
  if endOffset < 20 then return (endOffset, d)
  let loc ← readAt data (endOffset - 20 : Nat) 20
  let field := fun (at_ len : Nat) => littleEndian ((loc.drop at_).take len)
  if field 0 4 ≠ 0x07064b50 ∨ field 4 4 ≠ 0 ∨ field 16 4 ≠ 1 then return (endOffset, d)
  let p := field 8 8
  if p ≥ Nat.pow 2 63 then return (endOffset, d)
  let rec64 ← readAt data (p : Int) 56
  let f := fun (at_ len : Nat) => littleEndian ((rec64.drop at_).take len)
  if f 0 4 ≠ 0x06064b50 then .error .format
  pure (p, { records := f 32 8, size := f 40 8, offset := f 48 8 })

/-- Find the directory: its end record and the length of data prepended to the archive. -/
def readDirectoryEnd (data : Bytes) : Except ZipError (DirectoryEnd × Int) := do
  let size := data.length
  let window := min size 66560
  let block := data.drop (size - window)
  let some p := findEndSignature block | .error .format
  let endOffset := size - window + p
  let rec_ := block.drop p
  let field := fun (at_ len : Nat) => littleEndian ((rec_.drop at_).take len)
  let d : DirectoryEnd := { records := field 10 2, size := field 12 4, offset := field 16 4 }
  let (endOffset, d) ← if d.records = 0xFFFF ∨ d.size = 0xFFFF ∨ d.offset = 0xFFFFFFFF then
      zip64End data endOffset d else pure (endOffset, d)
  if d.size ≥ Nat.pow 2 63 ∨ d.offset ≥ Nat.pow 2 63 then .error .format
  let base : Int := (endOffset : Int) - d.size - d.offset
  let o := base + d.offset
  if o < 0 ∨ o ≥ size then .error .format
  if base > 0 then
    match readDirectoryEntry (data.drop d.offset) with
    | .ok _ => return (d, 0)
    | .error _ => return (d, base)
  pure (d, base)

/-- Read directory entries from a stream until one fails. -/
def readEntries (s : Bytes) : Nat → Except ZipError (List ZipEntry × ZipError)
  | 0 => .ok ([], .format)
  | fuel + 1 =>
    match readDirectoryEntry s with
    | .ok (e, rest) => (readEntries rest fuel).map fun (es, err) => (e :: es, err)
    | .error .format => .ok ([], .format)
    | .error .unexpectedEnd => .ok ([], .unexpectedEnd)
    | .error e => .error e

/-- The entries of an archive and the length of data prepended to it. -/
def readArchive (data : Bytes) : Except ZipError (List ZipEntry × Int) := do
  let (d, base) ← readDirectoryEnd data
  let (entries, err) ← readEntries (data.drop (base + d.offset).toNat) (data.length + 1)
  if entries.length % 65536 ≠ d.records % 65536 then .error err
  pure (entries.map fun e => { e with headerOffset := e.headerOffset + base }, base)

/-- The bytes an entry's data reads as, and what stops the reading (none for its end). -/
def entryStream (data : Bytes) (e : ZipEntry) (start : Nat) : Except ZipError (Bytes × Option ZipError) :=
  let raw := (data.drop start).take e.compressedSize
  if e.method = 0 then .ok (raw, none)
  else if e.method = 8 then
    let (out, err) := inflate raw
    .ok (out, err.map .inflate)
  else .error .algorithm

/-- Check the CRC of an entry's data against its data descriptor. -/
def checkDescriptor (data : Bytes) (e : ZipEntry) (at_ : Nat) (sum : Nat) : Except ZipError Unit := do
  let desc := (data.drop at_).take 16
  let (first, rest) ← (readFull desc 4).mapError fun _ => .unexpectedEnd
  let (crcBytes, _) ←
    if littleEndian first = 0x08074b50 then (readFull rest 12).mapError (fun _ => .unexpectedEnd)
    else (readFull rest 8).mapError (fun _ => .unexpectedEnd) |>.map fun (r, s) => (first ++ r, s)
  if littleEndian (crcBytes.take 4) ≠ e.crc then .error .checksum
  if sum ≠ e.crc then .error .checksum

/-- The contents of an entry. -/
def readEntry (data : Bytes) (e : ZipEntry) : Except ZipError Bytes := do
  let header ← readAt data e.headerOffset 30
  if littleEndian (header.take 4) ≠ 0x04034b50 then .error .format
  let bodyOffset := 30 + littleEndian ((header.drop 26).take 2) + littleEndian ((header.drop 28).take 2)
  if e.name.getLast? = some 0x2F then
    return ← if e.size ≠ 0 then .error .format else .ok []
  let start := e.headerOffset.toNat + bodyOffset
  let (out, stop) ← entryStream data e start
  if out.length > e.size then .error .format
  if let some err := stop then .error err
  if out.length ≠ e.size then .error .unexpectedEnd
  let sum := (crc32 out).toNat
  if e.flags / 8 % 2 = 1 then checkDescriptor data e (start + e.compressedSize) sum
  else if e.crc ≠ 0 ∧ sum ≠ e.crc then .error .checksum
  pure out

theorem readFull_zero (s : Bytes) : readFull s 0 = .ok ([], s) := rfl

end EInvoice.Archive
