import EInvoice.Text.Utf8
import EInvoice.Clock.Layout

/-!
# DER

Reading the Distinguished Encoding Rules of ASN.1, strictly. An element is an identifier
octet, a length and that many content bytes. Only low tag numbers are read (an identifier
whose tag bits are all set is refused). A length is in the short form below 128 and
otherwise in the fewest bytes of the long form, four at most. A reader takes an element from
the front of a byte string and gives the content (or the whole encoding) with the bytes after
it, or `none` when the bytes are not such an element.

The primitive readers refuse non-canonical contents: an integer has no redundant leading
byte, a boolean is `00` or `FF`, an object identifier is base-128 without a leading `80`,
a bit string has at most seven unused bits and those are zero, and a time reads back the
same when written again.
-/

namespace EInvoice.Asn1

open EInvoice.Text EInvoice.Clock

/-- An identifier octet: class, constructed bit and tag number. -/
abbrev Tag := UInt8

namespace Tag
def boolean : Tag := 0x01
def integer : Tag := 0x02
def bitString : Tag := 0x03
def octetString : Tag := 0x04
def null : Tag := 0x05
def oid : Tag := 0x06
def enumerated : Tag := 0x0A
def utf8String : Tag := 0x0C
def numericString : Tag := 0x12
def printableString : Tag := 0x13
def t61String : Tag := 0x14
def ia5String : Tag := 0x16
def utcTime : Tag := 0x17
def generalizedTime : Tag := 0x18
def bmpString : Tag := 0x1E
def sequence : Tag := 0x30
def set : Tag := 0x31
/-- A context-specific primitive tag. -/
def context (n : UInt8) : Tag := 0x80 ||| n
/-- A context-specific constructed tag. -/
def explicit (n : UInt8) : Tag := 0xA0 ||| n
end Tag

/-- A big-endian unsigned number. -/
def unsigned (bs : Bytes) : Nat := bs.foldl (fun acc b => acc * 256 + b.toNat) 0

/-- The header of an element at the front of `s`: its tag, header length and content length. -/
def header (s : Bytes) : Option (Tag × Nat × Nat) :=
  match s with
  | tag :: lenByte :: rest =>
    if tag &&& 0x1f = 0x1f then none
    else if lenByte < 0x80 then some (tag, 2, lenByte.toNat)
    else
      let n := (lenByte &&& 0x7f).toNat
      if n = 0 ∨ n > 4 ∨ rest.length < n then none
      else
        let lenBytes := rest.take n
        let len := unsigned lenBytes
        if len < 128 then none
        else if lenBytes.head? = some 0 then none
        else some (tag, 2 + n, len)
  | _ => none

/-- One element read from the front: its tag, its whole encoding, its header length, and the
bytes after it. -/
def readAnyElement (s : Bytes) : Option (Tag × Bytes × Nat × Bytes) := do
  let (tag, hlen, len) ← header s
  if s.length < hlen + len then none
  pure (tag, s.take (hlen + len), hlen, s.drop (hlen + len))

/-- The tag and content of the element at the front, and the bytes after it. -/
def readAny (s : Bytes) : Option (Tag × Bytes × Bytes) := do
  let (tag, full, hlen, rest) ← readAnyElement s
  pure (tag, full.drop hlen, rest)

/-- The content of an element with tag `t` at the front, and the bytes after it. -/
def read (t : Tag) (s : Bytes) : Option (Bytes × Bytes) := do
  let (tag, content, rest) ← readAny s
  if tag ≠ t then none
  pure (content, rest)

/-- The whole encoding of an element with tag `t` at the front, and the bytes after it. -/
def readElement (t : Tag) (s : Bytes) : Option (Bytes × Bytes) := do
  let (tag, full, _, rest) ← readAnyElement s
  if tag ≠ t then none
  pure (full, rest)

/-- Whether the element at the front has tag `t`. -/
def peek (t : Tag) (s : Bytes) : Bool := s.head? = some t

/-- The content of an optional element with tag `t`: `none` inside when absent. -/
def readOptional (t : Tag) (s : Bytes) : Option (Option Bytes × Bytes) :=
  if peek t s then (read t s).map fun (c, rest) => (some c, rest) else some (none, s)

/-- Skip an optional element with tag `t`. -/
def skipOptional (t : Tag) (s : Bytes) : Option Bytes :=
  (readOptional t s).map (·.2)

/-- The elements of a content, each with its tag and content, in order. -/
def elements (s : Bytes) : Option (List (Tag × Bytes)) :=
  go s.length s
where
  go : Nat → Bytes → Option (List (Tag × Bytes))
    | _, [] => some []
    | 0, _ => none
    | fuel + 1, s => do
      let (tag, content, rest) ← readAny s
      let more ← go fuel rest
      pure ((tag, content) :: more)

/-! ## Primitive values -/

/-- Whether integer content bytes are minimal. -/
def validInteger : Bytes → Bool
  | [] => false
  | [_] => true
  | b0 :: b1 :: _ => !((b0 = 0 && b1 < 0x80) || (b0 = 0xff && b1 ≥ 0x80))

/-- The value of integer content bytes, in two's complement. -/
def integerValue (bs : Bytes) : Int :=
  let u := unsigned bs
  match bs.head? with
  | some b => if b ≥ 0x80 then (u : Int) - (Nat.pow 2 (8 * bs.length) : Nat) else u
  | none => 0

/-- An integer of any size. -/
def readInteger (s : Bytes) : Option (Int × Bytes) := do
  let (c, rest) ← read Tag.integer s
  if !validInteger c then none
  pure (integerValue c, rest)

/-- An integer that fits in 64 bits. -/
def readInt64 (s : Bytes) : Option (Int × Bytes) := do
  let (c, rest) ← read Tag.integer s
  if !validInteger c ∨ c.length > 8 then none
  pure (integerValue c, rest)

/-- A boolean. -/
def readBoolean (s : Bytes) : Option (Bool × Bytes) := do
  let (c, rest) ← read Tag.boolean s
  match c with
  | [0] => pure (false, rest)
  | [0xff] => pure (true, rest)
  | _ => none

/-- An object identifier: its arcs. -/
abbrev Oid := List Nat

/-- The text of an object identifier, arcs joined by dots. -/
def Oid.show (o : Oid) : String := ".".intercalate (o.map toString)

/-- One base-128 number with at most five bytes, the first not `80`. -/
def base128 (s : Bytes) : Option (Nat × Bytes) :=
  go 0 0 s
where
  go : Nat → Nat → Bytes → Option (Nat × Bytes)
    | _, _, [] => none
    | i, acc, b :: rest =>
      if i = 5 ∨ acc ≥ Nat.pow 2 24 ∨ (i = 0 ∧ b = 0x80) then none
      else
        let acc := acc * 128 + (b &&& 0x7f).toNat
        if b &&& 0x80 = 0 then some (acc, rest) else go (i + 1) acc rest

/-- The arcs of object identifier content. -/
def oidArcs (c : Bytes) : Option Oid := do
  let (v, rest) ← base128 c
  let first := if v < 80 then [v / 40, v % 40] else [2, v - 80]
  let more ← go rest.length rest
  pure (first ++ more)
where
  go : Nat → Bytes → Option (List Nat)
    | _, [] => some []
    | 0, _ => none
    | fuel + 1, s => do
      let (v, rest) ← base128 s
      let more ← go fuel rest
      pure (v :: more)

/-- An object identifier. -/
def readOid (s : Bytes) : Option (Oid × Bytes) := do
  let (c, rest) ← read Tag.oid s
  if c.isEmpty then none
  pure (← oidArcs c, rest)

/-- A bit string: its bytes and its length in bits. -/
structure BitString where
  bytes : Bytes
  bitLength : Nat
  deriving Repr, DecidableEq

/-- A bit string whose unused bits are zero. -/
def readBitString (s : Bytes) : Option (BitString × Bytes) := do
  let (c, rest) ← read Tag.bitString s
  match c with
  | [] => none
  | pad :: bytes =>
    if pad > 7 then none
    if bytes.isEmpty ∧ pad ≠ 0 then none
    match bytes.getLast? with
    | some last => if last &&& ((1 <<< pad) - 1) ≠ 0 then none
    | none => pure ()
    pure (⟨bytes, bytes.length * 8 - pad.toNat⟩, rest)

/-- Whether bit `i` (counted from the most significant bit of the first byte) is set. -/
def BitString.at (b : BitString) (i : Nat) : Bool :=
  i < b.bitLength && ((b.bytes.getD (i / 8) 0).toNat / Nat.pow 2 (7 - i % 8)) % 2 = 1

/-! ## Times -/

/-- Exactly `n` ASCII digits at the front. -/
def digitsOf (n : Nat) (s : List Char) : Option (Nat × List Char) := fixedDigits n s

/-- A zone designator: `Z`, or a sign with hours and minutes (written as `+hhmm`). The offset
in seconds; a zero offset must be written `Z`. -/
def zoneOf : List Char → Option Int
  | ['Z'] => some 0
  | sign :: rest => do
    if sign ≠ '+' ∧ sign ≠ '-' then none
    let (hh, r) ← digitsOf 2 rest
    let (mm, r) ← digitsOf 2 r
    if !r.isEmpty ∨ hh > 24 ∨ mm > 60 then none
    let off : Int := (hh * 3600 + mm * 60 : Nat)
    if off = 0 then none
    pure (if sign = '-' then -off else off)
  | _ => none

/-- Month, day, hour, minute and optional second, then a zone: the time with the given year. -/
def clockOf (year : Nat) (s : List Char) (withSeconds : Bool) : Option Time := do
  let (mo, s) ← digitsOf 2 s
  let (d, s) ← digitsOf 2 s
  let (h, s) ← digitsOf 2 s
  let (mi, s) ← digitsOf 2 s
  let (sec, s) ← if withSeconds then digitsOf 2 s else some (0, s)
  if mo < 1 ∨ mo > 12 ∨ d < 1 ∨ d > (daysIn year mo).toNat ∨ h > 23 ∨ mi > 59 ∨ sec > 59 then none
  let off ← zoneOf s
  pure (Time.ofCivil year mo d h mi sec 0 off)

/-- The year of a two-digit `UTCTime` year: 50 to 99 are the 1900s, 00 to 49 the 2000s. -/
def utcYear (yy : Nat) : Nat := if yy < 50 then 2000 + yy else 1900 + yy

/-- A `UTCTime`: `YYMMDDhhmmss` (or without seconds) and a zone. -/
def utcTimeOf (c : List Char) : Option Time := do
  let (yy, rest) ← digitsOf 2 c
  match clockOf (utcYear yy) rest true with
  | some t => some t
  | none => clockOf (utcYear yy) rest false

/-- A `GeneralizedTime`: `YYYYMMDDhhmmss` and a zone. -/
def generalizedTimeOf (c : List Char) : Option Time := do
  let (y, rest) ← digitsOf 4 c
  clockOf y rest true

/-- The characters of ASCII content bytes. -/
def asciiChars (c : Bytes) : List Char := c.map fun b => Char.ofNat b.toNat

/-- A time, in either form; `none` with the form's name when malformed. -/
inductive TimeFault where
  | utc
  | generalized
  | unsupported
  deriving Repr, DecidableEq

/-- A `UTCTime` or `GeneralizedTime` at the front. -/
def readTime (s : Bytes) : Except TimeFault (Time × Bytes) :=
  if peek Tag.utcTime s then
    match read Tag.utcTime s with
    | some (c, rest) => match utcTimeOf (asciiChars c) with
      | some t => .ok (t, rest)
      | none => .error .utc
    | none => .error .utc
  else if peek Tag.generalizedTime s then
    match read Tag.generalizedTime s with
    | some (c, rest) => match generalizedTimeOf (asciiChars c) with
      | some t => .ok (t, rest)
      | none => .error .generalized
    | none => .error .generalized
  else .error .unsupported

/-! ## Writing -/

/-- The length octets of a content length. -/
def lengthBytes (n : Nat) : Bytes :=
  if n < 128 then [n.toUInt8]
  else
    let bs := minimalBytes n
    (0x80 + bs.length).toUInt8 :: bs
where
  minimalBytes (n : Nat) : Bytes :=
    (List.range 8).reverse.filterMap fun i =>
      if n ≥ Nat.pow 256 i then some (n / Nat.pow 256 i % 256).toUInt8 else none

/-- An element with a tag and content. -/
def encodeElement (t : Tag) (content : Bytes) : Bytes := t :: lengthBytes content.length ++ content

/-- The minimal two's complement bytes of an integer. -/
def integerBytes (v : Int) : Bytes :=
  let n := go 1 v
  (List.range n).reverse.map fun i => ((v / (Nat.pow 256 i : Nat)) % 256).toNat.toUInt8
where
  /-- The fewest bytes, from `k` up, that hold `v` in two's complement. -/
  go (k : Nat) (v : Int) : Nat :=
    if k ≥ 64 then k
    else if -(Nat.pow 2 (8 * k - 1) : Nat) ≤ v ∧ v < (Nat.pow 2 (8 * k - 1) : Nat) then k else go (k + 1) v
  termination_by 64 - k

/-- An integer element. -/
def encodeInteger (v : Int) : Bytes := encodeElement Tag.integer (integerBytes v)

/-- A sequence of encoded elements. -/
def encodeSequence (parts : List Bytes) : Bytes := encodeElement Tag.sequence parts.flatten

/-- The base-128 bytes of an arc. -/
def base128Bytes (v : Nat) : Bytes :=
  let groups := go v 5
  groups.dropLast.map (· ||| 0x80) ++ groups.getLast?.toList
where
  go (v : Nat) : Nat → Bytes
    | 0 => [(v % 128).toUInt8]
    | k + 1 => if v < 128 then [v.toUInt8] else go (v / 128) k ++ [(v % 128).toUInt8]

/-- An object identifier element. -/
def encodeOid (o : Oid) : Bytes :=
  match o with
  | a :: b :: rest => encodeElement Tag.oid ((base128Bytes (40 * a + b)) ++ rest.flatMap base128Bytes)
  | _ => encodeElement Tag.oid []

theorem read_encodeElement_short (t : Tag) (c rest : Bytes) (h : c.length < 128)
    (ht : t &&& 0x1f ≠ 0x1f) : read t (encodeElement t c ++ rest) = some (c, rest) := by
  have hl : lengthBytes c.length = [c.length.toUInt8] := by simp [lengthBytes, h]
  have hv : c.length.toUInt8.toNat = c.length := by
    simp only [Nat.toUInt8_eq, UInt8.toNat_ofNat', Nat.reducePow]; omega
  have hb : c.length.toUInt8 < 0x80 := by
    rw [UInt8.lt_iff_toNat_lt, hv]; exact h
  have h3 : ¬ (c.length + rest.length < c.length) := by omega
  have h2 : 2 + c.length = c.length + 1 + 1 := by omega
  simp [read, readAny, readAnyElement, header, encodeElement, hl, hb, hv, ht, h2, h3]
end EInvoice.Asn1
