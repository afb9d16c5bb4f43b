import EInvoice.Text.Utf8
import Mathlib

/-!
# Well-formed UTF-8 reads back as itself

`decode?` takes one character off the front of a byte string, checking each byte of the
sequence against the range the first byte allows. Whatever it accepts, `encodeChar` writes
back as exactly the bytes it read (`encodeChar_of_decode?`): the ranges rule out overlong
forms, surrogates and code points above `U+10FFFF`, which are the only ways two byte
sequences could name one character. So a byte string that reads with no stray byte is the
encoding of the text read from it (`encode_decodeLossy`).
-/

namespace EInvoice.Text


/-! ## One character -/

theorem toNat_ofNat_of_valid {n : Nat} (h : n < 0xD800 ∨ 0xDFFF < n ∧ n < 0x110000) :
    (Char.ofNat n).toNat = n := by
  have hv : n.isValidChar := h
  simp [Char.ofNat, hv, Char.ofNatAux, Char.toNat]

theorem toUInt8_eq {n : Nat} {b : UInt8} (h : n = b.toNat) : n.toUInt8 = b := by
  subst h; simp

theorem within_iff {lo hi b : UInt8} :
    within lo hi b = true ↔ lo.toNat ≤ b.toNat ∧ b.toNat ≤ hi.toNat := by
  simp [within, UInt8.le_iff_toNat_le]

section Sequences

variable {b0 b1 b2 b3 : UInt8}

theorem encodeChar_one (h : b0.toNat < 0x80) : encodeChar (Char.ofNat b0.toNat) = [b0] := by
  simp [encodeChar, toNat_ofNat_of_valid (n := b0.toNat) (Or.inl (by omega)), h]

theorem encodeChar_two (h0 : 0xC2 ≤ b0.toNat ∧ b0.toNat ≤ 0xDF) (h1 : 0x80 ≤ b1.toNat ∧ b1.toNat ≤ 0xBF) :
    encodeChar (Char.ofNat ((b0.toNat % 32) * 64 + low6 b1)) = [b0, b1] := by
  unfold low6
  rw [encodeChar, toNat_ofNat_of_valid (Or.inl (by omega)), if_neg (by omega), if_pos (by omega)]
  simp only [List.cons.injEq, and_true]
  exact ⟨toUInt8_eq (by omega), toUInt8_eq (by omega)⟩

theorem encodeChar_three (h0 : 0xE0 ≤ b0.toNat ∧ b0.toNat ≤ 0xEF)
    (h1 : (if b0 = 0xE0 then 0xA0 else 0x80) ≤ b1.toNat ∧
      b1.toNat ≤ (if b0 = 0xED then 0x9F else 0xBF))
    (h2 : 0x80 ≤ b2.toNat ∧ b2.toNat ≤ 0xBF) :
    encodeChar (Char.ofNat ((b0.toNat % 16) * 4096 + low6 b1 * 64 + low6 b2)) = [b0, b1, b2] := by
  unfold low6
  -- the first byte bounds the second: no overlong form, no surrogate
  replace h1 : 0x80 ≤ b1.toNat ∧ b1.toNat ≤ 0xBF ∧ (b0.toNat = 0xE0 → 0xA0 ≤ b1.toNat) ∧
      (b0.toNat = 0xED → b1.toNat ≤ 0x9F) := by
    simp only [← UInt8.toNat_inj, UInt8.reduceToNat] at h1
    split_ifs at h1 <;> omega
  have hv : (b0.toNat % 16) * 4096 + b1.toNat % 64 * 64 + b2.toNat % 64 < 0xD800 ∨
      0xDFFF < (b0.toNat % 16) * 4096 + b1.toNat % 64 * 64 + b2.toNat % 64 ∧
        (b0.toNat % 16) * 4096 + b1.toNat % 64 * 64 + b2.toNat % 64 < 0x110000 := by
    omega
  rw [encodeChar, toNat_ofNat_of_valid hv, if_neg (by omega), if_neg (by omega), if_pos (by omega)]
  simp only [List.cons.injEq, and_true]
  exact ⟨toUInt8_eq (by omega), toUInt8_eq (by omega), toUInt8_eq (by omega)⟩

theorem encodeChar_four (h0 : 0xF0 ≤ b0.toNat ∧ b0.toNat ≤ 0xF4)
    (h1 : (if b0 = 0xF0 then 0x90 else 0x80) ≤ b1.toNat ∧
      b1.toNat ≤ (if b0 = 0xF4 then 0x8F else 0xBF))
    (h2 : 0x80 ≤ b2.toNat ∧ b2.toNat ≤ 0xBF) (h3 : 0x80 ≤ b3.toNat ∧ b3.toNat ≤ 0xBF) :
    encodeChar (Char.ofNat ((b0.toNat % 8) * 262144 + low6 b1 * 4096 + low6 b2 * 64 + low6 b3)) =
      [b0, b1, b2, b3] := by
  unfold low6
  -- the first byte bounds the second: no overlong form, nothing above U+10FFFF
  replace h1 : 0x80 ≤ b1.toNat ∧ b1.toNat ≤ 0xBF ∧ (b0.toNat = 0xF0 → 0x90 ≤ b1.toNat) ∧
      (b0.toNat = 0xF4 → b1.toNat ≤ 0x8F) := by
    simp only [← UInt8.toNat_inj, UInt8.reduceToNat] at h1
    split_ifs at h1 <;> omega
  have hv : 0xDFFF < (b0.toNat % 8) * 262144 + b1.toNat % 64 * 4096 + b2.toNat % 64 * 64 + b3.toNat % 64 ∧
        (b0.toNat % 8) * 262144 + b1.toNat % 64 * 4096 + b2.toNat % 64 * 64 + b3.toNat % 64 < 0x110000 := by
    omega
  rw [encodeChar, toNat_ofNat_of_valid (Or.inr hv), if_neg (by omega), if_neg (by omega),
    if_neg (by omega)]
  simp only [List.cons.injEq, and_true]
  exact ⟨toUInt8_eq (by omega), toUInt8_eq (by omega), toUInt8_eq (by omega), toUInt8_eq (by omega)⟩

end Sequences

/-- A character read from the front of bytes is written back as the bytes it was read from. -/
theorem encodeChar_of_decode? {bs r : Bytes} {c : Char} (h : decode? bs = some (c, r)) :
    encodeChar c ++ r = bs := by
  rcases bs with _ | ⟨b0, rest⟩
  · simp [decode?] at h
  simp only [decode?] at h
  by_cases h1 : b0 < 0x80
  · -- one byte
    rw [if_pos h1] at h
    obtain ⟨rfl, rfl⟩ := Option.some.inj h |> Prod.mk.inj
    rw [encodeChar_one (by simpa [UInt8.lt_iff_toNat_lt] using h1)]; rfl
  rw [if_neg h1] at h
  by_cases h2 : 0xC2 ≤ b0 ∧ b0 ≤ 0xDF
  · -- two bytes
    rw [if_pos h2] at h
    rcases rest with _ | ⟨b1, r'⟩
    · simp at h
    · simp only [Option.ite_none_right_eq_some, Option.some.injEq, Prod.mk.injEq] at h
      obtain ⟨hb1, rfl, rfl⟩ := h
      rw [encodeChar_two (by simpa [UInt8.le_iff_toNat_le] using h2) (by simpa [within_iff] using hb1)]; rfl
  rw [if_neg h2] at h
  by_cases h3 : 0xE0 ≤ b0 ∧ b0 ≤ 0xEF
  · -- three bytes
    rw [if_pos h3] at h
    rcases rest with _ | ⟨b1, _ | ⟨b2, r'⟩⟩
    · simp at h
    · simp at h
    · simp only [Option.ite_none_right_eq_some, Option.some.injEq, Prod.mk.injEq, Bool.and_eq_true] at h
      obtain ⟨⟨hb1, hb2⟩, rfl, rfl⟩ := h
      rw [encodeChar_three (by simpa [UInt8.le_iff_toNat_le] using h3)
        (by simpa [within_iff, apply_ite UInt8.toNat] using hb1) (by simpa [within_iff] using hb2)]
      rfl
  rw [if_neg h3] at h
  by_cases h4 : 0xF0 ≤ b0 ∧ b0 ≤ 0xF4
  · -- four bytes
    rw [if_pos h4] at h
    rcases rest with _ | ⟨b1, _ | ⟨b2, _ | ⟨b3, r'⟩⟩⟩
    · simp at h
    · simp at h
    · simp at h
    · simp only [Option.ite_none_right_eq_some, Option.some.injEq, Prod.mk.injEq, Bool.and_eq_true] at h
      obtain ⟨⟨⟨hb1, hb2⟩, hb3⟩, rfl, rfl⟩ := h
      rw [encodeChar_four (by simpa [UInt8.le_iff_toNat_le] using h4)
        (by simpa [within_iff, apply_ite UInt8.toNat] using hb1) (by simpa [within_iff] using hb2)
        (by simpa [within_iff] using hb3)]
      rfl
  rw [if_neg h4] at h
  cases h

/-- Every character is written as at least one byte. -/
theorem encodeChar_ne_nil (c : Char) : encodeChar c ≠ [] := by
  unfold encodeChar
  dsimp only
  split_ifs <;> simp

/-! ## A whole byte string -/

/-- Reading pieces that are all characters, and writing the characters back, gives the bytes. -/
theorem flatMap_pieces_go : ∀ (fuel : Nat) (bs : Bytes), bs.length ≤ fuel →
    (pieces.go fuel bs).all (fun | .char _ => true | .stray _ => false) = true →
    ((pieces.go fuel bs).map fun | .char c => c | .stray _ => '�').flatMap encodeChar = bs
  | 0, bs, hlen, _ => by simp at hlen; simp [hlen, pieces.go]
  | _ + 1, [], _, _ => by simp [pieces.go]
  | fuel + 1, b :: rest, hlen, hall => by
    rw [pieces.go] at hall ⊢
    split at hall
    · rename_i c r hd
      have hback := encodeChar_of_decode? hd
      have hr : r.length ≤ fuel := by
        have hl := congrArg List.length hback
        have hc := List.length_pos_of_ne_nil (encodeChar_ne_nil c)
        simp only [List.length_append, List.length_cons] at hl hlen
        omega
      simp only [List.all_cons, Bool.true_and] at hall
      simp only [List.map_cons, List.flatMap_cons, flatMap_pieces_go fuel r hr hall, hback]
    · simp at hall

/-- Well-formed UTF-8 is read as a text whose encoding is the bytes read. -/
theorem encode_decodeLossy {bs : Bytes} (h : isValid bs = true) : encode (decodeLossy bs) = bs := by
  simp only [encode, decodeLossy, String.toList_ofList]
  exact flatMap_pieces_go _ bs le_rfl h

end EInvoice.Text
