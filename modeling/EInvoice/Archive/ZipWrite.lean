import EInvoice.Archive.Crc32

/-!
# Writing zip archives

An archive of one deflated entry as a streaming writer lays it out: a local header with the
sizes and CRC left at zero and the data-descriptor flag set, the compressed data, a data
descriptor with the CRC and both sizes, then the central directory of one entry and the
end-of-directory record. Times are zero, and the name is marked as UTF-8 only when it needs
to be (it holds a byte of 128 or more and is valid UTF-8).

Sizes that do not fit in 32 bits go to zip64 fields: an entry one of whose sizes reaches
`0xFFFFFFFF` writes 64-bit sizes in its data descriptor, and its directory entry marks both
32-bit sizes as `0xFFFFFFFF`, asks for version 4.5 and carries the sizes in a zip64 extra
field. A directory that starts (or is as long as) `0xFFFFFFFF` bytes or more is found through
a zip64 end record and its locator, written before an end record whose fields are all marked.
-/

namespace EInvoice.Archive

open EInvoice.Text

/-- A number as `n` little-endian bytes. -/
def leBytes (n v : Nat) : Bytes := (List.range n).map fun i => (v / Nat.pow 256 i % 256).toUInt8

/-- The mark of a 32-bit field whose value is in a zip64 field. -/
def max32 : Nat := 0xFFFFFFFF

/-- The flags of an entry: data descriptor, and UTF-8 names when needed. -/
def entryFlags (name : Bytes) : Nat :=
  if name.any (· ≥ 0x80) ∧ isValid name then 0x808 else 0x8

/-- Whether an entry of `size` bytes, `compressed` once deflated, needs zip64 fields. -/
def needsZip64 (size compressed : Nat) : Bool := compressed ≥ max32 || size ≥ max32

/-- The local header of a deflated entry whose CRC and sizes follow its data. -/
def localHeader (name : Bytes) : Bytes :=
  leBytes 4 0x04034b50 ++ leBytes 2 20 ++ leBytes 2 (entryFlags name) ++ leBytes 2 8 ++
    leBytes 4 0 ++ leBytes 4 0 ++ leBytes 4 0 ++ leBytes 4 0 ++ leBytes 2 name.length ++
    leBytes 2 0 ++ name

/-- The data descriptor after an entry's data: its signature, the CRC and both sizes, the
sizes in eight bytes each when the entry needs zip64 fields. -/
def dataDescriptor (crc size compressed : Nat) : Bytes :=
  let w := if needsZip64 size compressed then 8 else 4
  leBytes 4 0x08074b50 ++ leBytes 4 crc ++ leBytes w compressed ++ leBytes w size

/-- The zip64 extra field of a directory entry at offset zero, when it needs one. -/
def zip64Extra (size compressed : Nat) : Bytes :=
  if needsZip64 size compressed then
    leBytes 2 1 ++ leBytes 2 24 ++ leBytes 8 size ++ leBytes 8 compressed ++ leBytes 8 0
  else []

/-- The fixed part of the directory entry of a deflated entry whose local header is at offset
zero: everything before its name. -/
def directoryHeader (name : Bytes) (crc size compressed : Nat) : Bytes :=
  let big := needsZip64 size compressed
  leBytes 4 0x02014b50 ++ leBytes 2 20 ++ leBytes 2 (if big then 45 else 20) ++
    leBytes 2 (entryFlags name) ++ leBytes 2 8 ++ leBytes 4 0 ++ leBytes 4 crc ++
    leBytes 4 (if big then max32 else compressed) ++ leBytes 4 (if big then max32 else size) ++
    leBytes 2 name.length ++ leBytes 2 (zip64Extra size compressed).length ++ leBytes 2 0 ++
    leBytes 2 0 ++ leBytes 2 0 ++ leBytes 4 0 ++ leBytes 4 0

/-- The directory entry of a deflated entry whose local header is at offset zero: its fixed
part, its name and its zip64 extra field. -/
def directoryEntry (name : Bytes) (crc size compressed : Nat) : Bytes :=
  directoryHeader name crc size compressed ++ name ++ zip64Extra size compressed

/-- Whether a directory of one entry needs the zip64 end record. -/
def needsZip64End (dirSize dirOffset : Nat) : Bool := dirSize ≥ max32 || dirOffset ≥ max32

/-- The zip64 end record of a directory of one entry. -/
def zip64EndRecord (dirSize dirOffset : Nat) : Bytes :=
  leBytes 4 0x06064b50 ++ leBytes 8 44 ++ leBytes 2 45 ++ leBytes 2 45 ++ leBytes 4 0 ++
    leBytes 4 0 ++ leBytes 8 1 ++ leBytes 8 1 ++ leBytes 8 dirSize ++ leBytes 8 dirOffset

/-- The locator of a zip64 end record written at `recordOffset`. -/
def zip64Locator (recordOffset : Nat) : Bytes :=
  leBytes 4 0x07064b50 ++ leBytes 4 0 ++ leBytes 8 recordOffset ++ leBytes 4 1

/-- The end-of-directory record: the number of entries, the directory's size and offset, and
no comment. -/
def endRecord (records dirSize dirOffset : Nat) : Bytes :=
  leBytes 4 0x06054b50 ++ leBytes 2 0 ++ leBytes 2 0 ++ leBytes 2 records ++ leBytes 2 records ++
    leBytes 4 dirSize ++ leBytes 4 dirOffset ++ leBytes 2 0

/-- What follows a directory of one entry of `dirSize` bytes at `dirOffset`: the end record,
after the zip64 end record and its locator when these are needed. -/
def directoryEnd (dirSize dirOffset : Nat) : Bytes :=
  if needsZip64End dirSize dirOffset then
    zip64EndRecord dirSize dirOffset ++ zip64Locator (dirOffset + dirSize) ++
      endRecord 0xFFFF max32 max32
  else endRecord 1 dirSize dirOffset

/-- An archive holding one entry, given the entry's name, its contents and its deflated
contents. -/
def zipOneEntry (name contents deflated : Bytes) : Bytes :=
  let crc := (crc32 contents).toNat
  let body := localHeader name ++ deflated ++ dataDescriptor crc contents.length deflated.length
  let central := directoryEntry name crc contents.length deflated.length
  body ++ central ++ directoryEnd central.length body.length

theorem leBytes_length (n v : Nat) : (leBytes n v).length = n := by
  simp [leBytes]

end EInvoice.Archive
