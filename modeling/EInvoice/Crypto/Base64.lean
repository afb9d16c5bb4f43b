import EInvoice.Text.Utf8

/-!
# Base64

The standard alphabet of RFC 4648 with `=` padding. Encoding writes every three bytes as four
characters and pads the last group.

Decoding reads the text in groups of four characters (`quantum`). Line breaks (CR and LF) are
skipped anywhere. A group may end early only with padding: two characters then `==`, or
three then `=`, and after padding nothing but line breaks may follow. Bits left over in the
last character are ignored. Any other text is refused with the byte offset of the fault
(`Base64Error`), counted as follows:

* a character outside the alphabet: its own offset;
* padding after fewer than two characters of a group, or a lone `=` where `==` is needed:
  the offset of that `=` (of the first of the two);
* a group cut short by the end of the text: the offset where it started, less the line breaks
  inside it;
* `==` cut short by the end of the text: the length of the text;
* text after the padding: the offset of its first character.
-/

namespace EInvoice.Crypto.Base64

open EInvoice.Text

/-- The alphabet. -/
def alphabet : Array Char :=
  "ABCDEFGHIJKLMNOPQRSTUVWXYZabcdefghijklmnopqrstuvwxyz0123456789+/".toList.toArray

/-- The character of a sextet. -/
def digit (v : Nat) : Char := alphabet[v % 64]!

/-- Three bytes (or fewer, at the end) as four characters. -/
def encodeGroup : Bytes → List Char
  | [] => []
  | [a] => let n := a.toNat * 65536
    [digit (n / 262144), digit (n / 4096), '=', '=']
  | [a, b] => let n := a.toNat * 65536 + b.toNat * 256
    [digit (n / 262144), digit (n / 4096), digit (n / 64), '=']
  | a :: b :: c :: _ => let n := a.toNat * 65536 + b.toNat * 256 + c.toNat
    [digit (n / 262144), digit (n / 4096), digit (n / 64), digit n]

/-- The text of a byte string. -/
def encode (bs : Bytes) : String :=
  String.ofList (go bs)
where
  go : Bytes → List Char
    | a :: b :: c :: rest => encodeGroup [a, b, c] ++ go rest
    | rest => encodeGroup rest

/-- The sextet of an alphabet byte. -/
def sextet (b : UInt8) : Option Nat :=
  let n := b.toNat
  if 65 ≤ n ∧ n ≤ 90 then some (n - 65)
  else if 97 ≤ n ∧ n ≤ 122 then some (n - 71)
  else if 48 ≤ n ∧ n ≤ 57 then some (n + 4)
  else if n = 43 then some 62
  else if n = 47 then some 63
  else none

/-- Whether a byte is a line break. -/
def isBreak (b : UInt8) : Bool := b = 10 || b = 13

/-- The bytes of up to four sextets: one byte fewer than sextets. -/
def assemble (vals : List Nat) : Bytes :=
  let v := (vals ++ List.replicate (4 - vals.length) 0).foldl (fun acc x => acc * 64 + x) 0
  (List.take (vals.length - 1) [v / 65536, v / 256, v]).map fun x => (x % 256).toUInt8

/-- The outcome of reading one group. -/
inductive Quantum where
  /-- the text ended before the group began -/
  | finished
  /-- the bytes of the group, the offset after it and the text after it -/
  | bytes (out : Bytes) (pos : Nat) (rest : Bytes)
  /-- the text is refused at an offset -/
  | fault (pos : Nat)

/-- The end of a padded group: line breaks may follow, nothing else. -/
def closePadding (vals : List Nat) (pos : Nat) (rest : Bytes) : Quantum :=
  let after := rest.dropWhile isBreak
  let pos := pos + (rest.length - after.length)
  if after.isEmpty then .bytes (assemble vals) pos [] else .fault pos

/-- Read one group from `src` at offset `pos`, the sextets `vals` of the group read so far. -/
def quantum (src : Bytes) (pos : Nat) (vals : List Nat) : Quantum :=
  match src with
  | [] => if vals.isEmpty then .finished else .fault (pos - vals.length)
  | c :: rest =>
    match sextet c with
    | some v =>
      if vals.length = 3 then .bytes (assemble (vals ++ [v])) (pos + 1) rest
      else quantum rest (pos + 1) (vals ++ [v])
    | none =>
      if isBreak c then quantum rest (pos + 1) vals
      else if c ≠ 61 then .fault pos
      else if vals.length < 2 then .fault pos
      else if vals.length = 2 then
        let after := rest.dropWhile isBreak
        let mark := pos + 1 + (rest.length - after.length)
        match after with
        | [] => .fault mark
        | d :: more => if d ≠ 61 then .fault (mark - 1) else closePadding vals (mark + 1) more
      else closePadding vals (pos + 1) rest

/-- Why a text is no base64: the offset of the fault. -/
structure Base64Error where
  pos : Nat
  deriving Repr, DecidableEq

/-- The text of a base64 error. -/
def Base64Error.message (e : Base64Error) : String :=
  "illegal base64 data at input byte " ++ toString e.pos

/-- Read groups until the text ends, with `fuel` groups at most. -/
def decodeGroups : Nat → Bytes → Nat → Except Base64Error Bytes
  | 0, _, _ => .ok []
  | fuel + 1, src, pos =>
    match quantum src pos [] with
    | .finished => .ok []
    | .fault p => .error ⟨p⟩
    | .bytes out pos' rest =>
      if rest.isEmpty then .ok out
      else (decodeGroups fuel rest pos').map (out ++ ·)

/-- The bytes of a base64 text given as bytes. -/
def decodeBytes (src : Bytes) : Except Base64Error Bytes :=
  decodeGroups (src.length + 1) src 0

/-- The bytes of a base64 text. -/
def decode (text : String) : Except Base64Error Bytes := decodeBytes (Text.encode text)

theorem sextet_digit : ∀ v, v < 64 → sextet ((digit v).toNat.toUInt8) = some v := by
  decide +kernel

end EInvoice.Crypto.Base64
