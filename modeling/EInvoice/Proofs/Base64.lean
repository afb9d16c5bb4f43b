import EInvoice.Crypto.Base64
import EInvoice.Text.Blank
import EInvoice.Proofs.Utf8
import EInvoice.Proofs.Basic
import Mathlib

/-!
# Base64 reads back what it writes

Decoding the text of a byte string gives the byte string back (`decode_encode`), and the text
holds no blank, so trimming it changes nothing (`trim_encode`).

The proof follows the writer: every three bytes are one group of four characters, which the
reader takes back as the same three bytes; a last group of one or two bytes is padded, and
the padding is where the text ends.
-/

namespace EInvoice.Crypto.Base64

open EInvoice.Text

/-! ## The characters written -/

theorem digit_mod (v : Nat) : digit (v % 64) = digit v := by simp [digit]

theorem digit_facts : ∀ v, v < 64 →
    (digit v).toNat < 128 ∧ isBlank (digit v) = false ∧ 32 ≤ (digit v).toNat := by
  decide +kernel

theorem encodeChar_digit (v : Nat) : encodeChar (digit v) = [(digit v).toNat.toUInt8] := by
  rw [← digit_mod]
  simp [encodeChar, (digit_facts (v % 64) (Nat.mod_lt _ (by decide))).1]

theorem sextet_digit_mod (v : Nat) : sextet ((digit v).toNat.toUInt8) = some (v % 64) := by
  rw [← digit_mod]
  exact sextet_digit _ (Nat.mod_lt _ (by decide))

theorem isBlank_digit (v : Nat) : isBlank (digit v) = false := by
  rw [← digit_mod]
  exact (digit_facts (v % 64) (Nat.mod_lt _ (by decide))).2.1

theorem digit_printable (v : Nat) : 32 ≤ (digit v).toNat ∧ (digit v).toNat < 128 := by
  rw [← digit_mod]
  have h := digit_facts (v % 64) (Nat.mod_lt _ (by decide))
  exact ⟨h.2.2, h.1⟩

/-- Every character written is a digit of the alphabet or the padding `=`. -/
theorem mem_go {x : Char} {bs : Bytes} (h : x ∈ encode.go bs) : (∃ v, x = digit v) ∨ x = '=' := by
  fun_induction encode.go bs with
  | case1 a b c rest ih =>
    simp only [encodeGroup, List.cons_append, List.nil_append, List.mem_cons] at h
    rcases h with rfl | rfl | rfl | rfl | h
    any_goals exact .inl ⟨_, rfl⟩
    exact ih h
  | case2 rest hne =>
    match rest, h with
    | [a], h =>
      simp only [encodeGroup, List.mem_cons, List.not_mem_nil, or_false] at h
      rcases h with rfl | rfl | rfl | rfl <;> simp
    | [a, b], h =>
      simp only [encodeGroup, List.mem_cons, List.not_mem_nil, or_false] at h
      rcases h with rfl | rfl | rfl | rfl <;> simp
    | [], h => simp [encodeGroup] at h
    | _ :: _ :: _ :: _, _ => exact (hne _ _ _ _ rfl).elim

/-! ## One group at a time -/

theorem assemble_three (a b c : UInt8) :
    let n := a.toNat * 65536 + b.toNat * 256 + c.toNat
    assemble [n / 262144 % 64, n / 4096 % 64, n / 64 % 64, n % 64] = [a, b, c] := by
  have ha := a.toNat_lt
  have hb := b.toNat_lt
  have hc := c.toNat_lt
  simp only [assemble]
  simp
  refine ⟨?_, ?_, ?_⟩ <;> (apply UInt8.toNat_inj.mp; simp; omega)

theorem assemble_two (a b : UInt8) :
    let n := a.toNat * 65536 + b.toNat * 256
    assemble [n / 262144 % 64, n / 4096 % 64, n / 64 % 64] = [a, b] := by
  have ha := a.toNat_lt
  have hb := b.toNat_lt
  simp only [assemble]
  simp
  refine ⟨?_, ?_⟩ <;> (apply UInt8.toNat_inj.mp; simp; omega)

theorem assemble_one (a : UInt8) :
    let n := a.toNat * 65536
    assemble [n / 262144 % 64, n / 4096 % 64] = [a] := by
  have ha := a.toNat_lt
  simp only [assemble]
  simp
  apply UInt8.toNat_inj.mp; simp; omega

theorem encodeChar_pad : encodeChar '=' = [61] := rfl

theorem sextet_pad : sextet 61 = none := rfl

theorem isBreak_pad : isBreak 61 = false := rfl

theorem quantum_three (a b c : UInt8) (rest : Bytes) (pos : Nat) :
    quantum ((encodeGroup [a, b, c]).flatMap encodeChar ++ rest) pos [] =
      .bytes [a, b, c] (pos + 4) rest := by
  have h := assemble_three a b c
  simp only at h
  simp [encodeGroup, encodeChar_digit, quantum, sextet_digit_mod]
  exact h

theorem quantum_two (a b : UInt8) (pos : Nat) :
    quantum ((encodeGroup [a, b]).flatMap encodeChar) pos [] = .bytes [a, b] (pos + 4) [] := by
  have h := assemble_two a b
  simp only at h
  simp [encodeGroup, encodeChar_digit, encodeChar_pad, quantum, sextet_digit_mod, sextet_pad,
    isBreak_pad, closePadding]
  exact h

theorem quantum_one (a : UInt8) (pos : Nat) :
    quantum ((encodeGroup [a]).flatMap encodeChar) pos [] = .bytes [a] (pos + 4) [] := by
  have h := assemble_one a
  simp only at h
  simp [encodeGroup, encodeChar_digit, encodeChar_pad, quantum, sextet_digit_mod, sextet_pad,
    isBreak_pad, closePadding]
  exact h

/-! ## The whole text -/

theorem length_le_flatMap_encodeChar (cs : List Char) :
    cs.length ≤ (cs.flatMap encodeChar).length := by
  induction cs with
  | nil => simp
  | cons c cs ih =>
    have := List.length_pos_of_ne_nil (encodeChar_ne_nil c)
    simp only [List.flatMap_cons, List.length_append, List.length_cons]
    omega

theorem go_eq_nil {bs : Bytes} : encode.go bs = [] ↔ bs = [] := by
  fun_induction encode.go bs with
  | case1 a b c rest _ => simp [encodeGroup]
  | case2 rest hne =>
    match rest, hne with
    | [], _ => simp [encodeGroup]
    | [a], _ => simp [encodeGroup]
    | [a, b], _ => simp [encodeGroup]
    | _ :: _ :: _ :: _, hne => exact (hne _ _ _ _ rfl).elim

theorem length_go (bs : Bytes) : bs.length / 3 ≤ (encode.go bs).length := by
  fun_induction encode.go bs with
  | case1 a b c rest ih => simp [encodeGroup]; omega
  | case2 rest hne =>
    match rest, hne with
    | [], _ => simp
    | [a], _ => simp
    | [a, b], _ => simp
    | _ :: _ :: _ :: _, hne => exact (hne _ _ _ _ rfl).elim

/-- The groups of a written text read back as the bytes written, with a group of fuel to
spare. -/
theorem decodeGroups_go (bs : Bytes) :
    ∀ fuel pos, bs.length / 3 < fuel →
      decodeGroups fuel ((encode.go bs).flatMap encodeChar) pos = .ok bs := by
  fun_induction encode.go bs with
  | case1 a b c rest ih =>
    intro fuel pos hf
    obtain ⟨f, rfl⟩ : ∃ f, fuel = f + 1 := ⟨fuel - 1, by omega⟩
    rw [List.flatMap_append, decodeGroups, quantum_three]
    by_cases hr : rest = []
    · subst hr
      simp [encode.go, encodeGroup]
    · have hne : ((encode.go rest).flatMap encodeChar).isEmpty = false := by
        obtain ⟨x, xs, hx⟩ : ∃ x xs, encode.go rest = x :: xs := by
          cases h : encode.go rest with
          | nil => exact absurd (go_eq_nil.1 h) hr
          | cons x xs => exact ⟨x, xs, rfl⟩
        rw [hx, List.flatMap_cons]
        simp [encodeChar_ne_nil]
      simp only [hne, Bool.false_eq_true, if_false]
      rw [ih f (pos + 4) (by simp at hf; omega)]
      rfl
  | case2 rest hne =>
    intro fuel pos hf
    obtain ⟨f, rfl⟩ : ∃ f, fuel = f + 1 := ⟨fuel - 1, by omega⟩
    match rest, hne with
    | [], _ => simp [encodeGroup, decodeGroups, quantum]
    | [a], _ =>
      rw [decodeGroups, quantum_one]
      rfl
    | [a, b], _ =>
      rw [decodeGroups, quantum_two]
      rfl
    | _ :: _ :: _ :: _, hne => exact (hne _ _ _ _ rfl).elim

/-- Decoding the text of a byte string gives it back. -/
theorem decode_encode (bs : Bytes) : decode (encode bs) = .ok bs := by
  have h := length_go bs
  have hlen := length_le_flatMap_encodeChar (encode.go bs)
  unfold decode decodeBytes
  rw [Text.encode, encode, String.toList_ofList]
  exact decodeGroups_go bs _ 0 (by omega)

/-! ## Blanks -/

/-- The text of a byte string holds printable ASCII characters only. -/
theorem printable_encode (bs : Bytes) :
    ∀ c ∈ (encode bs).toList, 32 ≤ c.toNat ∧ c.toNat < 128 := by
  intro c hc
  rw [encode, String.toList_ofList] at hc
  rcases mem_go hc with ⟨v, rfl⟩ | rfl
  · exact digit_printable v
  · decide

/-- The text of a byte string holds no blank, so trimming keeps it. -/
theorem trim_encode (bs : Bytes) : trim (encode bs) = encode bs := by
  apply trim_of_forall
  intro c hc
  rw [encode, String.toList_ofList] at hc
  rcases mem_go hc with ⟨v, rfl⟩ | rfl
  · exact isBlank_digit v
  · decide

theorem encode_ne_empty {bs : Bytes} (h : bs ≠ []) : encode bs ≠ "" := by
  rw [encode, Ne, String.ofList_eq_empty_iff, go_eq_nil]
  exact h

end EInvoice.Crypto.Base64
