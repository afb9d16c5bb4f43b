/-!
# Deflate code words and tables

The fixed parts of the deflate format (RFC 1951): a copy's length (3 to 258) and distance
(1 to 32768) are written as a symbol followed by extra bits, and each symbol has a base and
a number of extra bits. Code words are written first bit lowest, so a Huffman code is stored
with its bits reversed.
-/

namespace EInvoice.Deflate

/-- A code word as it is written, first bit lowest, and its length in bits. A length of zero
marks a symbol that has no code. -/
structure Code where
  bits : Nat
  len : Nat
  deriving Repr, Inhabited, DecidableEq

/-- The symbol that ends a block. -/
def endOfBlock : Nat := 256

/-- The low `n` bits of `v`, in reverse order. -/
def reverseBits (v n : Nat) : Nat :=
  (List.range n).foldl (fun acc i => acc * 2 + v / Nat.pow 2 i % 2) 0

/-- Extra bits after each length symbol, by length code (length symbol minus 257). -/
def lengthExtra : Array Nat :=
  #[0, 0, 0, 0, 0, 0, 0, 0, 1, 1, 1, 1, 2, 2, 2, 2, 3, 3, 3, 3, 4, 4, 4, 4, 5, 5, 5, 5, 0,
    0, 0, 0]

/-- The smallest length minus three of each length code. -/
def lengthBase : Array Nat :=
  #[0, 1, 2, 3, 4, 5, 6, 7, 8, 10, 12, 14, 16, 20, 24, 28, 32, 40, 48, 56, 64, 80, 96, 112,
    128, 160, 192, 224, 255, 0, 0, 0]

/-- Extra bits after each distance symbol. -/
def offsetExtra : Array Nat :=
  #[0, 0, 0, 0, 1, 1, 2, 2, 3, 3, 4, 4, 5, 5, 6, 6, 7, 7, 8, 8, 9, 9, 10, 10, 11, 11, 12, 12,
    13, 13, 14, 14]

/-- The smallest distance minus one of each distance symbol. -/
def offsetBase : Array Nat :=
  #[0, 1, 2, 3, 4, 6, 8, 12, 16, 24, 32, 48, 64, 96, 128, 192, 256, 384, 512, 768, 1024, 1536,
    2048, 3072, 4096, 6144, 8192, 12288, 16384, 24576, 32768, 49152]

/-- The length code of a length minus three (0 to 255): the last code whose base is not
above it. -/
def lengthCode (l : Nat) : Nat :=
  (List.range 29).foldl (fun c i => if lengthBase.getD i 0 ≤ l then i else c) 0

/-- The distance symbol of a distance minus one: the last symbol whose base is not above it
(symbols 30 and 31 do not occur in a stream but serve as estimates). -/
def offsetCode (o : Nat) : Nat :=
  (List.range 32).foldl (fun c i => if offsetBase.getD i 0 ≤ o then i else c) 0

/-- The code of each literal/length symbol in a block with fixed codes. -/
def fixedLiteralCodes : Array Code :=
  (Array.range 286).map fun ch =>
    if ch < 144 then ⟨reverseBits (ch + 48) 8, 8⟩
    else if ch < 256 then ⟨reverseBits (ch + 400 - 144) 9, 9⟩
    else if ch < 280 then ⟨reverseBits (ch - 256) 7, 7⟩
    else ⟨reverseBits (ch + 192 - 280) 8, 8⟩

/-- The code of each distance symbol in a block with fixed codes. -/
def fixedOffsetCodes : Array Code :=
  (Array.range 30).map fun ch => ⟨reverseBits ch 5, 5⟩

/-- The order in which the lengths of the code-length code are written. -/
def codegenOrder : Array Nat :=
  #[16, 17, 18, 0, 8, 7, 9, 6, 10, 5, 11, 4, 12, 3, 13, 2, 14, 1, 15]

/-- The number of bits that a code spends on symbols with the given counts. -/
def bitLength (codes : Array Code) (freq : Array Nat) : Nat :=
  (List.range freq.size).foldl (fun t i => t + freq.getD i 0 * (codes.getD i default).len) 0

/-- The last item of a list that passes a test, chosen from `c` on: `c` itself or an item of
the list. -/
theorem foldl_last_eq_or_mem (xs : List Nat) (p : Nat → Prop) [DecidablePred p] (c : Nat) :
    xs.foldl (fun c i => if p i then i else c) c = c ∨
      xs.foldl (fun c i => if p i then i else c) c ∈ xs := by
  induction xs generalizing c with
  | nil => exact .inl rfl
  | cons x xs ih =>
    rw [List.foldl_cons]
    by_cases hx : p x
    · rw [if_pos hx]
      rcases ih x with h | h
      · rw [h]; exact .inr List.mem_cons_self
      · exact .inr (List.mem_cons_of_mem _ h)
    · rw [if_neg hx]
      rcases ih c with h | h
      · exact .inl h
      · exact .inr (List.mem_cons_of_mem _ h)

/-- Every length has one of the 29 length codes. -/
theorem lengthCode_lt (l : Nat) : lengthCode l < 29 := by
  unfold lengthCode
  rcases foldl_last_eq_or_mem (List.range 29) (fun i => lengthBase.getD i 0 ≤ l) 0 with h | h
  · rw [h]; decide
  · exact List.mem_range.1 h

example : lengthCode 0 = 0 ∧ lengthCode 255 = 28 := by decide

/-- Every distance has one of the 32 distance symbols. -/
theorem offsetCode_lt (o : Nat) : offsetCode o < 32 := by
  unfold offsetCode
  rcases foldl_last_eq_or_mem (List.range 32) (fun i => offsetBase.getD i 0 ≤ o) 0 with h | h
  · rw [h]; decide
  · exact List.mem_range.1 h

end EInvoice.Deflate
