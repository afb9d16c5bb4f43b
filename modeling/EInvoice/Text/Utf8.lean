import EInvoice.Text.Quoted

/-!
# UTF-8

Texts travel as bytes. `encode` writes a text in UTF-8; `decode?` reads back one character
from the front of a byte string, refusing overlong forms, surrogates, code points above
`U+10FFFF` and cut sequences. `decodeLossy` reads a whole byte string, turning each byte
that does not start a well-formed sequence into `U+FFFD`; `quoteBytes` writes a byte string
in double quotes like `quote`, with such a byte as `\xNN`.
-/

namespace EInvoice.Text

/-- Byte strings. -/
abbrev Bytes := List UInt8

/-- The UTF-8 encoding of one character. -/
def encodeChar (c : Char) : Bytes :=
  let n := c.toNat
  if n < 0x80 then [n.toUInt8]
  else if n < 0x800 then [(0xC0 + n / 64).toUInt8, (0x80 + n % 64).toUInt8]
  else if n < 0x10000 then
    [(0xE0 + n / 4096).toUInt8, (0x80 + n / 64 % 64).toUInt8, (0x80 + n % 64).toUInt8]
  else
    [(0xF0 + n / 262144).toUInt8, (0x80 + n / 4096 % 64).toUInt8, (0x80 + n / 64 % 64).toUInt8,
     (0x80 + n % 64).toUInt8]

/-- The UTF-8 encoding of a text. -/
def encode (s : String) : Bytes := s.toList.flatMap encodeChar

/-- Whether a byte continues a sequence within `[lo, hi]`. -/
def within (lo hi : UInt8) (b : UInt8) : Bool := lo ≤ b && b ≤ hi

/-- The payload bits of a continuation byte. -/
def low6 (b : UInt8) : Nat := b.toNat % 64

/-- One character read from the front of a byte string, with the bytes after it; `none` when
the first byte does not start a well-formed sequence. -/
def decode? : Bytes → Option (Char × Bytes)
  | [] => none
  | b0 :: rest =>
    if b0 < 0x80 then some (Char.ofNat b0.toNat, rest)
    else if 0xC2 ≤ b0 ∧ b0 ≤ 0xDF then
      match rest with
      | b1 :: r => if within 0x80 0xBF b1 then some (Char.ofNat ((b0.toNat % 32) * 64 + low6 b1), r) else none
      | _ => none
    else if 0xE0 ≤ b0 ∧ b0 ≤ 0xEF then
      let lo : UInt8 := if b0 = 0xE0 then 0xA0 else 0x80
      let hi : UInt8 := if b0 = 0xED then 0x9F else 0xBF
      match rest with
      | b1 :: b2 :: r =>
        if within lo hi b1 && within 0x80 0xBF b2 then
          some (Char.ofNat ((b0.toNat % 16) * 4096 + low6 b1 * 64 + low6 b2), r)
        else none
      | _ => none
    else if 0xF0 ≤ b0 ∧ b0 ≤ 0xF4 then
      let lo : UInt8 := if b0 = 0xF0 then 0x90 else 0x80
      let hi : UInt8 := if b0 = 0xF4 then 0x8F else 0xBF
      match rest with
      | b1 :: b2 :: b3 :: r =>
        if within lo hi b1 && within 0x80 0xBF b2 && within 0x80 0xBF b3 then
          some (Char.ofNat ((b0.toNat % 8) * 262144 + low6 b1 * 4096 + low6 b2 * 64 + low6 b3), r)
        else none
      | _ => none
    else none

/-- The pieces of a byte string: a well-formed character, or a byte that starts none. -/
inductive Piece where
  | char (c : Char)
  | stray (b : UInt8)
  deriving Repr, DecidableEq

/-- A byte string cut into pieces, front to back. -/
def pieces (bs : Bytes) : List Piece :=
  go bs.length bs
where
  go : Nat → Bytes → List Piece
    | 0, _ => []
    | _, [] => []
    | fuel + 1, b :: rest =>
      match decode? (b :: rest) with
      | some (c, r) => .char c :: go fuel r
      | none => .stray b :: go fuel rest

/-- Whether a byte string is well-formed UTF-8. -/
def isValid (bs : Bytes) : Bool := (pieces bs).all fun | .char _ => true | .stray _ => false

/-- A byte string read as text, each stray byte becoming `U+FFFD`. -/
def decodeLossy (bs : Bytes) : String :=
  String.ofList ((pieces bs).map fun | .char c => c | .stray _ => '�')

/-- A byte string in double quotes: characters as `quote` writes them, stray bytes as
`\xNN`. -/
def quoteBytes (bs : Bytes) : String :=
  "\"" ++ String.join ((pieces bs).map fun
    | .char c => escapeChar '"' c
    | .stray b => "\\x" ++ hexDigits 2 b.toNat) ++ "\""

example : decode? (encodeChar 'ñ') = some ('ñ', []) := by decide
example : decodeLossy [0x61, 0xFF, 0x62] = "a�b" := by decide +kernel
example : quoteBytes [0x25, 0xE2, 0x82] = "\"%\\xe2\\x82\"" := by decide +kernel

end EInvoice.Text
