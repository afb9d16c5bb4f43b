import EInvoice.Crypto.Base64

/-!
# PEM

The textual encoding of RFC 7468 as read by `decodeBlock`: a block starts at a line
`-----BEGIN TYPE-----` (at the start of the text or after a line feed), may carry header
lines `Key: value`, and ends at a line `-----END TYPE-----` with the same type and nothing
after it on its line but blanks. The base64 body between them may be broken into lines and
may hold blanks and tabs. A candidate that fails any of these rules is skipped and the search
goes on after its BEGIN line; when no block is found, the whole text is given back.
-/

namespace EInvoice.Pki

open EInvoice.Text EInvoice.Crypto

/-- A PEM block: its type, headers and bytes. -/
structure PemBlock where
  type : String
  headers : List (String × String)
  bytes : Bytes
  deriving Repr, DecidableEq

/-- The index of the first occurrence of `pat` in `s`. -/
def findBytes (pat : Bytes) (s : Bytes) : Option Nat :=
  go s 0
where
  go : Bytes → Nat → Option Nat
    | [], i => if pat.isEmpty then some i else none
    | c :: rest, i => if pat.isPrefixOf (c :: rest) then some i else go rest (i + 1)

/-- Blanks and tabs removed from the end. -/
def trimRightBlanks (s : Bytes) : Bytes := (s.reverse.dropWhile fun b => b = 32 || b = 9).reverse

/-- Blanks, tabs and line breaks removed from both ends. -/
def trimSpaceBytes (s : Bytes) : Bytes :=
  let sp := fun (b : UInt8) => b = 32 || b = 9 || b = 10 || b = 13 || b = 11 || b = 12
  ((s.dropWhile sp).reverse.dropWhile sp).reverse

/-- The first line (without its line feed, a carriage return before it, or trailing blanks)
and the text after the line feed. -/
def getLine (s : Bytes) : Bytes × Bytes :=
  match s.idxOf? 10 with
  | none => (trimRightBlanks s, [])
  | some i =>
    let line := s.take i
    let line := if line.getLast? = some 13 then line.dropLast else line
    (trimRightBlanks line, s.drop (i + 1))

def pemStart : Bytes := encode "\n-----BEGIN "
def pemEnd : Bytes := encode "\n-----END "
def pemDashes : Bytes := encode "-----"

/-- The header lines of a block: `none` when the text ends inside them. -/
def readHeaders (s : Bytes) : Option (List (String × String) × Bytes) :=
  go s.length s []
where
  go : Nat → Bytes → List (String × String) → Option (List (String × String) × Bytes)
    | 0, _, _ => none
    | fuel + 1, rest, acc =>
      if rest.isEmpty then none
      else
        let (line, next) := getLine rest
        match line.idxOf? 58 with
        | none => some (acc, rest)
        | some i =>
          let key := decodeLossy (trimSpaceBytes (line.take i))
          let val := decodeLossy (trimSpaceBytes (line.drop (i + 1)))
          go fuel next ((acc.filter (·.1 ≠ key)) ++ [(key, val)])

/-- The block of a candidate whose BEGIN marker has just been read, or `none`. -/
def readCandidate (typeLine : Bytes) (rest : Bytes) : Option (PemBlock × Bytes) := do
  if !pemDashes.reverse.isPrefixOf typeLine.reverse then none
  let typ := typeLine.take (typeLine.length - pemDashes.length)
  let (headers, rest) ← readHeaders rest
  let (endIndex, trailerIndex) ←
    if headers.isEmpty ∧ (pemEnd.drop 1).isPrefixOf rest then some (0, pemEnd.length - 1)
    else (findBytes pemEnd rest).map fun i => (i, i + pemEnd.length)
  let trailer := rest.drop trailerIndex
  let trailerLen := typ.length + pemDashes.length
  if trailer.length < trailerLen then none
  let restOfEndLine := trailer.drop trailerLen
  let trailer := trailer.take trailerLen
  if !typ.isPrefixOf trailer ∨ !pemDashes.reverse.isPrefixOf trailer.reverse then none
  if !(getLine restOfEndLine).1.isEmpty then none
  let body := (rest.take endIndex).filter fun b => b ≠ 32 && b ≠ 9
  let bytes ← (Base64.decodeBytes body).toOption
  let after := (getLine (rest.drop (endIndex + pemEnd.length - 1))).2
  pure (⟨decodeLossy typ, headers, bytes⟩, after)

/-- The first PEM block of a text and the text after it; the whole text back when there is
none. -/
def decodeBlock (data : Bytes) : Option PemBlock × Bytes :=
  go data.length data
where
  go : Nat → Bytes → Option PemBlock × Bytes
    | 0, _ => (none, data)
    | fuel + 1, rest =>
      let start :=
        if (pemStart.drop 1).isPrefixOf rest then some (rest.drop (pemStart.length - 1))
        else (findBytes pemStart rest).map fun i => rest.drop (i + pemStart.length)
      match start with
      | none => (none, data)
      | some rest =>
        let (typeLine, rest) := getLine rest
        match readCandidate typeLine rest with
        | some (b, after) => (some b, after)
        | none => go fuel rest

/-- All PEM blocks of a text, in order. -/
def decodeBlocks (data : Bytes) : List PemBlock :=
  go data.length data
where
  go : Nat → Bytes → List PemBlock
    | 0, _ => []
    | fuel + 1, rest =>
      match decodeBlock rest with
      | (some b, after) => b :: go fuel after
      | (none, _) => []

example : decodeBlock [] = (none, []) := by
  simp [decodeBlock, decodeBlock.go]

end EInvoice.Pki
