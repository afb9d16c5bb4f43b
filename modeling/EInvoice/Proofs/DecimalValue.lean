import EInvoice.Decimal.Basic
import Mathlib

/-!
# The value of a decimal

A decimal `⟨c, e⟩` stands for the rational `c × 10 ^ e` (`Decimal.val`). Sums, differences and
products are exact on values. Rounding and division are the two operations that lose digits: for
non-negative numbers both round half up. Rounding to `p` places takes the value `x` to
`⌊x × 10 ^ p + 1/2⌋ / 10 ^ p` (`val_round`), and division rounds the exact quotient the same way
at its precision (`val_divRound`). Rounding of that kind is monotone and leaves whole units of the
place as they are (`halfUp_mono`, `halfUp_of_wholeUnits`), which is what lets amounts be rounded
at two precisions in a row without one undoing the other.
-/

namespace EInvoice.Decimal

/-! ## Values -/

/-- The exact value of a decimal. -/
def val (d : Decimal) : ℚ := d.coeff * (10 : ℚ) ^ d.exp

theorem intPow_eq (m : Int) (n : Nat) : Int.pow m n = m ^ n := rfl

theorem zpow_ten_pos (n : ℤ) : (0 : ℚ) < 10 ^ n := zpow_pos (by norm_num) n

theorem coeff_nonneg_iff (d : Decimal) : 0 ≤ d.coeff ↔ 0 ≤ d.val := by
  rw [val, mul_nonneg_iff_of_pos_right (zpow_ten_pos _), Int.cast_nonneg_iff]


theorem val_scaledTo (d : Decimal) {e : Int} (h : e ≤ d.exp) :
    (d.scaledTo e : ℚ) * 10 ^ e = d.val := by
  have hn : ((d.exp - e).toNat : ℤ) = d.exp - e := Int.toNat_of_nonneg (by omega)
  rw [scaledTo, intPow_eq, val, Int.cast_mul, Int.cast_pow, Int.cast_ofNat, mul_assoc,
    ← zpow_natCast, ← zpow_add₀ (by norm_num), hn, sub_add_cancel]

@[simp] theorem val_add (a b : Decimal) : (a + b).val = a.val + b.val := by
  show (add a b).val = _
  rw [← val_scaledTo a (min_le_left a.exp b.exp), ← val_scaledTo b (min_le_right a.exp b.exp)]
  simp only [add, val, Int.cast_add, add_mul]

@[simp] theorem val_neg (a : Decimal) : (neg a).val = -a.val := by
  simp [neg, val]

@[simp] theorem val_sub (a b : Decimal) : (a - b).val = a.val - b.val := by
  show (add a (neg b)).val = _
  rw [show add a (neg b) = a + neg b from rfl, val_add, val_neg, sub_eq_add_neg]

@[simp] theorem val_mul (a b : Decimal) : (a * b).val = a.val * b.val := by
  show (mul a b).val = _
  simp only [mul, val, Int.cast_mul, zpow_add₀ (show (10 : ℚ) ≠ 0 by norm_num)]
  ring

@[simp] theorem val_ofInt (n : Int) : (ofInt n).val = n := by
  simp [ofInt, val]

@[simp] theorem val_ofNat (n : ℕ) :
    (no_index (OfNat.ofNat n : Decimal)).val = (OfNat.ofNat n : ℚ) := by
  show (ofInt n).val = _
  simp [val, ofInt]
  rfl

/-! ## Rounding -/

/-- `x` rounded half up to `p` places. -/
def halfUp (x : ℚ) (p : ℤ) : ℚ := ⌊x * 10 ^ p + 1 / 2⌋ / 10 ^ p

theorem floor_div_ten_add_half (y : ℚ) : ⌊y / 10 + 1 / 2⌋ = (⌊y⌋ + 5) / 10 := by
  have h : y / 10 + 1 / 2 = (y + (5 : ℕ)) / ((10 : ℕ) : ℚ) := by push_cast; ring
  rw [h, Int.floor_div_natCast, Int.floor_add_natCast]
  rfl

theorem rescale_exp (d : Decimal) (e : Int) : (d.rescale e).exp = e := by
  unfold rescale; split <;> rfl

/-- Rescaling a non-negative decimal truncates its value to the new exponent. -/
theorem rescale_coeff (d : Decimal) (e : Int) (h : 0 ≤ d.coeff) :
    (d.rescale e).coeff = ⌊d.val * 10 ^ (-e)⌋ := by
  have h10 : (10 : ℚ) ≠ 0 := by norm_num
  unfold rescale val
  split
  · rename_i he
    have hn : ((d.exp - e).toNat : ℤ) = d.exp - e := Int.toNat_of_nonneg (by omega)
    have hv : (d.coeff : ℚ) * 10 ^ d.exp * 10 ^ (-e) =
        ((d.coeff * 10 ^ (d.exp - e).toNat : ℤ) : ℚ) := by
      rw [Int.cast_mul, Int.cast_pow, Int.cast_ofNat, ← zpow_natCast, hn, mul_assoc,
        ← zpow_add₀ h10]
      ring_nf
    simp only [intPow_eq]
    rw [hv, Int.floor_intCast]
  · rename_i he
    have hn : ((e - d.exp).toNat : ℤ) = e - d.exp := Int.toNat_of_nonneg (by omega)
    have hv : (d.coeff : ℚ) * 10 ^ d.exp * 10 ^ (-e) =
        (d.coeff : ℚ) / ((10 ^ (e - d.exp).toNat : ℕ) : ℚ) := by
      rw [Nat.cast_pow, Nat.cast_ofNat, ← zpow_natCast, hn, mul_assoc, ← zpow_add₀ h10,
        div_eq_mul_inv, ← zpow_neg]
      ring_nf
    simp only [intPow_eq]
    rw [hv, Rat.floor_intCast_div_natCast, Int.tdiv_eq_ediv_of_nonneg h]
    simp

theorem floor_add_half (n : ℤ) : ⌊(n : ℚ) + 1 / 2⌋ = n := by
  rw [Int.floor_intCast_add, add_eq_left, Int.floor_eq_zero_iff]
  norm_num

/-- Rounding a non-negative decimal rounds its value half up. -/
theorem val_round (d : Decimal) (p : Int) (h : 0 ≤ d.coeff) :
    (d.round p).val = halfUp d.val p := by
  have h10 : (10 : ℚ) ≠ 0 := by norm_num
  unfold round halfUp
  split
  · -- already at `p` places: the value is a whole number of units of the last place
    rename_i he
    have hv : d.val * 10 ^ p = d.coeff := by
      rw [val, he, mul_assoc, ← zpow_add₀ h10, neg_add_cancel, zpow_zero, mul_one]
    rw [hv, floor_add_half, val, he, zpow_neg, div_eq_mul_inv]
  · -- one more place is kept by truncation, then the last digit decides
    have hr := rescale_coeff d (-p - 1) h
    have hnn : 0 ≤ (d.rescale (-p - 1)).coeff := by
      rw [hr]; exact Int.floor_nonneg.2 (by
        have : 0 ≤ d.val := mul_nonneg (by exact_mod_cast h) (zpow_nonneg (by norm_num) _)
        positivity)
    have hy : d.val * 10 ^ p + 1 / 2 = d.val * 10 ^ (-(-p - 1)) / 10 + 1 / 2 := by
      rw [neg_sub, sub_neg_eq_add, zpow_add₀ h10, zpow_one]
      field_simp
    simp only [val, if_neg (not_lt.2 hnn)]
    rw [Int.tdiv_eq_ediv_of_nonneg (by omega), ← val, hy, floor_div_ten_add_half, ← hr,
      zpow_neg, div_eq_mul_inv]

/-! ## Division -/

theorem compare_eq_lt (a b : Decimal) : compare a b = .lt ↔ a.val < b.val := by
  unfold compare
  rw [← val_scaledTo a (min_le_left a.exp b.exp), ← val_scaledTo b (min_le_right a.exp b.exp),
    mul_lt_mul_iff_of_pos_right (zpow_pos (by norm_num) _), Int.cast_lt]
  exact compare_lt_iff_lt

/-- Half up, in integers: the quotient, one more when the remainder is at least half. -/
theorem floor_div_add_half (N D : ℤ) (hD : 0 < D) :
    ⌊(N : ℚ) / D + 1 / 2⌋ = if 2 * (N % D) < D then N / D else N / D + 1 := by
  have hq : (N : ℚ) / D + 1 / 2 = ((2 * N + D : ℤ) : ℚ) / ((2 * D : ℤ) : ℚ) := by
    have : (D : ℚ) ≠ 0 := by exact_mod_cast hD.ne'
    push_cast; field_simp
  have hD2 : (2 * D : ℤ) = ((2 * D).toNat : ℤ) := (Int.toNat_of_nonneg (by omega)).symm
  rw [hq, hD2, Int.cast_natCast, Rat.floor_intCast_div_natCast, ← hD2]
  have hlt := Int.emod_lt_of_pos N hD
  have hnn := Int.emod_nonneg N hD.ne'
  -- `2N + D` is `2D` times the quotient plus `2R + D`, which is below `2D` exactly when `2R < D`
  have hN : 2 * N + D = (2 * (N % D) + D) + N / D * (2 * D) := by
    linear_combination (-2) * Int.mul_ediv_add_emod N D
  rw [hN, Int.add_mul_ediv_right _ _ (by omega)]
  split
  · rw [Int.ediv_eq_zero_of_lt (by omega) (by omega), zero_add]
  · have h1 : 2 * (N % D) + D = (2 * (N % D) - D) + 1 * (2 * D) := by ring
    rw [h1, Int.add_mul_ediv_right _ _ (by omega), Int.ediv_eq_zero_of_lt (by omega) (by omega)]
    ring

/-- The truncated quotient and the remainder of two non-negative decimals, as the integer
quotient `N / D` of a fraction equal to `a / b` at `prec` places, and its remainder. -/
theorem quoRem_spec (a b : Decimal) (prec : Int) (ha : 0 ≤ a.coeff) (hb : 0 < b.coeff) :
    ∃ N D : ℤ, 0 ≤ N ∧ 0 < D ∧ a.val / b.val * 10 ^ prec = N / D ∧
      (quoRem a b prec).1 = ⟨N / D, -prec⟩ ∧
      ((⟨2 * ((quoRem a b prec).2.coeff.natAbs : Int), (quoRem a b prec).2.exp + prec⟩ :
        Decimal).val < b.abs.val ↔ 2 * (N % D) < D) := by
  have h10 : (10 : ℚ) ≠ 0 := by norm_num
  have hB : (0 : ℚ) < b.coeff := by exact_mod_cast hb
  have habs : b.abs.val = b.val := by
    simp [abs, val, Int.natAbs_of_nonneg hb.le]
  unfold quoRem
  dsimp only
  split
  · -- the divisor takes the missing powers of ten
    rename_i he
    set k := (-(a.exp - b.exp - -prec)).toNat with hk
    have hkz : (k : ℤ) = b.exp - a.exp - prec := by rw [hk]; omega
    have hD : 0 < b.coeff * 10 ^ k := by positivity
    refine ⟨a.coeff, b.coeff * 10 ^ k, ha, hD, ?_, ?_, ?_⟩
    · simp only [val]
      rw [Int.cast_mul, Int.cast_pow, Int.cast_ofNat, ← zpow_natCast, hkz]
      rw [zpow_sub₀ h10, zpow_sub₀ h10]
      field_simp
    · simp [Int.tdiv_eq_ediv_of_nonneg ha]
    · have hb' : b.val = ((b.coeff * 10 ^ k : ℤ) : ℚ) * 10 ^ (a.exp + prec) := by
        rw [val, Int.cast_mul, Int.cast_pow, Int.cast_ofNat, ← zpow_natCast, hkz, mul_assoc,
          ← zpow_add₀ h10]
        ring_nf
      rw [habs, hb']
      simp only [val, intPow_eq, Int.tmod_eq_emod_of_nonneg ha]
      rw [Int.natAbs_of_nonneg (Int.emod_nonneg _ hD.ne'),
        mul_lt_mul_iff_of_pos_right (zpow_ten_pos _), Int.cast_lt]
  · -- the dividend takes the extra powers of ten
    rename_i he
    set k := (a.exp - b.exp - -prec).toNat with hk
    have hkz : (k : ℤ) = a.exp - b.exp + prec := by rw [hk]; omega
    have hN : 0 ≤ a.coeff * 10 ^ k := by positivity
    refine ⟨a.coeff * 10 ^ k, b.coeff, hN, hb, ?_, ?_, ?_⟩
    · simp only [val]
      rw [Int.cast_mul, Int.cast_pow, Int.cast_ofNat, ← zpow_natCast, hkz]
      rw [zpow_add₀ h10, zpow_sub₀ h10]
      field_simp
    · simp [Int.tdiv_eq_ediv_of_nonneg hN]
    · rw [habs]
      simp only [val, intPow_eq, Int.tmod_eq_emod_of_nonneg hN]
      rw [Int.natAbs_of_nonneg (Int.emod_nonneg _ hb.ne'),
        show -prec + b.exp + prec = b.exp by ring,
        mul_lt_mul_iff_of_pos_right (zpow_ten_pos _), Int.cast_lt]

/-- Dividing non-negative decimals by a positive one rounds the quotient half up. -/
theorem val_divRound (a b : Decimal) (prec : Int) (ha : 0 ≤ a.coeff) (hb : 0 < b.coeff) :
    (divRound a b prec).val = halfUp (a.val / b.val) prec := by
  obtain ⟨N, D, hN, hD, hy, hq, hr⟩ := quoRem_spec a b prec ha hb
  -- a quotient of non-negative numbers is never stepped down
  have hsign : ¬ a.coeff.sign * b.coeff.sign < 0 := by
    rw [Int.sign_eq_one_of_pos hb, mul_one]
    exact not_lt.2 (Int.sign_nonneg_iff.2 ha)
  unfold divRound halfUp
  rcases hqr : quoRem a b prec with ⟨q, r⟩
  rw [hqr] at hq hr
  dsimp only at hq hr ⊢
  subst hq
  rw [hy, floor_div_add_half N D hD]
  simp only [compare_eq_lt, hr]
  split_ifs
  · simp [val, zpow_neg, div_eq_mul_inv]
  · rw [val_add]
    simp [val, zpow_neg, div_eq_mul_inv]
    ring

/-! ## Whole units of a decimal place -/

/-- `x` is a non-negative whole number of units of the `p`-th decimal place. -/
def WholeUnits (p : ℤ) (x : ℚ) : Prop := ∃ k : ℕ, x = k / 10 ^ p

section WholeUnits

variable {p : ℤ} {x y : ℚ}

theorem wholeUnits_zero : WholeUnits p 0 := ⟨0, by simp⟩

theorem WholeUnits.nonneg (h : WholeUnits p x) : 0 ≤ x := by
  obtain ⟨k, rfl⟩ := h
  exact div_nonneg (Nat.cast_nonneg k) (zpow_ten_pos p).le

theorem WholeUnits.add (hx : WholeUnits p x) (hy : WholeUnits p y) : WholeUnits p (x + y) := by
  obtain ⟨k, rfl⟩ := hx
  obtain ⟨l, rfl⟩ := hy
  exact ⟨k + l, by push_cast; ring⟩

theorem WholeUnits.sub (hx : WholeUnits p x) (hy : WholeUnits p y) (hyx : y ≤ x) :
    WholeUnits p (x - y) := by
  obtain ⟨k, rfl⟩ := hx
  obtain ⟨l, rfl⟩ := hy
  have hlk : l ≤ k := by
    rw [div_le_div_iff_of_pos_right (zpow_ten_pos p)] at hyx
    exact_mod_cast hyx
  exact ⟨k - l, by rw [Nat.cast_sub hlk]; ring⟩

/-- Units of a place are whole units of every finer place. -/
theorem WholeUnits.finer {q : ℤ} (h : WholeUnits p x) (hpq : p ≤ q) : WholeUnits q x := by
  obtain ⟨k, rfl⟩ := h
  refine ⟨k * 10 ^ (q - p).toNat, ?_⟩
  have hn : (((q - p).toNat : ℕ) : ℤ) = q - p := Int.toNat_of_nonneg (by omega)
  have h10 : (10 : ℚ) ≠ 0 := by norm_num
  rw [Nat.cast_mul, Nat.cast_pow, Nat.cast_ofNat, ← zpow_natCast, hn, zpow_sub₀ h10]
  field_simp

theorem wholeUnits_sum {l : List ℚ} (h : ∀ x ∈ l, WholeUnits p x) : WholeUnits p l.sum := by
  induction l with
  | nil => exact wholeUnits_zero
  | cons x l ih =>
    rw [List.sum_cons]
    exact (h x List.mem_cons_self).add (ih fun y hy => h y (List.mem_cons_of_mem x hy))

end WholeUnits

/-! ## Properties of rounding half up -/

section HalfUp

variable {p : ℤ} {x y : ℚ}

theorem halfUp_wholeUnits (hx : 0 ≤ x) : WholeUnits p (halfUp x p) := by
  have hf : 0 ≤ ⌊x * 10 ^ p + 1 / 2⌋ :=
    Int.floor_nonneg.2 (by have := zpow_ten_pos p; positivity)
  refine ⟨⌊x * 10 ^ p + 1 / 2⌋.toNat, ?_⟩
  rw [halfUp, ← Int.cast_natCast, Int.toNat_of_nonneg hf]

theorem halfUp_nonneg (hx : 0 ≤ x) : 0 ≤ halfUp x p := (halfUp_wholeUnits hx).nonneg

/-- Rounding leaves whole units of the place as they are. -/
theorem halfUp_of_wholeUnits (h : WholeUnits p x) : halfUp x p = x := by
  obtain ⟨k, rfl⟩ := h
  have h10 := (zpow_ten_pos p).ne'
  have hk : (k : ℚ) / 10 ^ p * 10 ^ p = ((k : ℤ) : ℚ) := by field_simp; simp
  rw [halfUp, hk, floor_add_half]
  simp

theorem halfUp_mono (hxy : x ≤ y) : halfUp x p ≤ halfUp y p := by
  unfold halfUp
  apply div_le_div_of_nonneg_right _ (zpow_ten_pos p).le
  have := zpow_ten_pos p
  exact_mod_cast Int.floor_mono (by gcongr)

end HalfUp

end EInvoice.Decimal
