import EInvoice.Proofs.ExponentRange
import EInvoice.Proofs.ItemLines
import Mathlib

/-!
# The VAT split rounds once

The base of a taxed amount is computed in two roundings: the division by `100 + r` keeps sixteen
places, and the quotient is then rounded to the amount places. Both round half away from zero, on
numbers of either sign (`val_round_halfAway`, `val_divRound_halfAway`), so the base is the exact
quotient rounded twice.

Rounding twice can move a number that lies just below a half unit of the last place across it.
It never does here: an amount is a whole number of units of its last place, so at rate 5 the
exact base is a whole number of 21sts of that unit, and at rate 10 of 11ths. Such a number is at
least `1/42` of a unit away from a half unit above it, far more than the sixteen places can move
it (`halfUp_halfUp`). The base is therefore the exact quotient rounded once, straight to the
amount places.

Main statement: `splitVat_rounds_once`.
-/

namespace EInvoice

@[simp] theorem Decimal.halfUp_zero (p : ℤ) : Decimal.halfUp 0 p = 0 := by
  simp [Decimal.halfUp, Int.floor_eq_zero_iff]
  norm_num

/-- Rounding half away from zero is symmetric about zero. -/
theorem Invoice.halfAway_neg (x : ℚ) (p : ℤ) :
    Invoice.halfAway (-x) p = -Invoice.halfAway x p := by
  rcases lt_trichotomy x 0 with hx | rfl | hx
  · rw [Invoice.halfAway_of_nonneg (by linarith), Invoice.halfAway, if_neg (not_le.2 hx), neg_neg]
  · simp [Invoice.halfAway]
  · rw [Invoice.halfAway, if_neg (by linarith), neg_neg, Invoice.halfAway_of_nonneg hx.le]

namespace Decimal

open Invoice (halfAway halfAway_of_nonneg halfAway_neg)

/-! ## Sign symmetry of the library's rounding -/

@[simp] theorem neg_neg_eq (a : Decimal) : neg (neg a) = a := by
  simp [neg]

theorem rescale_neg (d : Decimal) (e : Int) : (neg d).rescale e = neg (d.rescale e) := by
  unfold rescale neg
  split <;> simp [Int.neg_tdiv]

/-- Rounding a negated decimal gives the negated rounding. -/
theorem round_neg (d : Decimal) (p : Int) : (neg d).round p = neg (d.round p) := by
  unfold round
  by_cases he : d.exp = -p
  · simp [neg, he]
  · have he' : (neg d).exp ≠ -p := he
    rw [if_neg he, if_neg he', rescale_neg]
    -- the digit kept past the last place moves by five away from zero, on both sides of zero
    rcases lt_trichotomy (d.rescale (-p - 1)).coeff 0 with hc | hc | hc
    · simp [neg, hc, ← Int.neg_tdiv]
      congr 1; omega
    · simp [neg, hc]
    · simp [neg, hc, not_lt.2 hc.le, ← Int.neg_tdiv]
      congr 1; omega

theorem quoRem_neg (a b : Decimal) (prec : Int) :
    quoRem (neg a) b prec = (neg (quoRem a b prec).1, neg (quoRem a b prec).2) := by
  unfold quoRem neg
  dsimp only
  split <;> simp [*, Int.neg_tdiv, Int.neg_tmod]

/-- Dividing a negated positive decimal by a positive one gives the negated quotient. -/
theorem val_divRound_neg {a b : Decimal} (prec : Int) (ha : 0 < a.coeff) (hb : 0 < b.coeff) :
    (divRound (neg a) b prec).val = -(divRound a b prec).val := by
  have hsa : ¬ a.coeff.sign * b.coeff.sign < 0 := by
    rw [Int.sign_eq_one_of_pos ha, Int.sign_eq_one_of_pos hb]; decide
  have hsn : (neg a).coeff.sign * b.coeff.sign < 0 := by
    show (-a.coeff).sign * b.coeff.sign < 0
    rw [Int.sign_neg, Int.sign_eq_one_of_pos ha, Int.sign_eq_one_of_pos hb]; decide
  unfold divRound
  rw [quoRem_neg]
  rcases quoRem a b prec with ⟨q, r⟩
  dsimp only
  -- the remainder test reads only the remainder's magnitude, which negation keeps
  have hr : (neg r).coeff.natAbs = r.coeff.natAbs := Int.natAbs_neg _
  rw [hr, show (neg r).exp = r.exp from rfl, if_neg hsa, if_pos hsn]
  split_ifs
  · exact val_neg q
  · rw [val_sub, val_neg, val_add]
    ring

/-- Rounding a decimal of either sign rounds its value half away from zero. -/
theorem val_round_halfAway (d : Decimal) (p : Int) : (d.round p).val = halfAway d.val p := by
  by_cases h : 0 ≤ d.coeff
  · rw [val_round d p h, halfAway_of_nonneg ((coeff_nonneg_iff d).1 h) p]
  · -- a negative decimal is the negation of a positive one
    obtain ⟨d, rfl⟩ : ∃ d', d = neg d' := ⟨neg d, (neg_neg_eq d).symm⟩
    have hn : 0 ≤ d.coeff := by simp only [neg] at h; omega
    rw [round_neg, val_neg, val_neg, val_round d p hn, halfAway_neg,
      halfAway_of_nonneg ((coeff_nonneg_iff d).1 hn)]

/-- Dividing a decimal of either sign by a positive one rounds the quotient half away from
zero. -/
theorem val_divRound_halfAway (a b : Decimal) (prec : Int) (hb : 0 < b.coeff) :
    (divRound a b prec).val = halfAway (a.val / b.val) prec := by
  have hbv : 0 < b.val := by
    rw [val]; exact mul_pos (by exact_mod_cast hb) (zpow_ten_pos _)
  by_cases h : 0 ≤ a.coeff
  · rw [val_divRound a b prec h hb,
      halfAway_of_nonneg (div_nonneg ((coeff_nonneg_iff a).1 h) hbv.le)]
  · obtain ⟨a, rfl⟩ : ∃ a', a = neg a' := ⟨neg a, (neg_neg_eq a).symm⟩
    have hn : 0 < a.coeff := by simp only [neg] at h; omega
    rw [val_divRound_neg prec hn hb, val_divRound a b prec hn.le hb, val_neg, neg_div,
      halfAway_neg, halfAway_of_nonneg (div_nonneg ((coeff_nonneg_iff a).1 hn.le) hbv.le)]

/-! ## Rounding twice -/

/-- The floor step of rounding twice: a number `u` that is a whole number of `D`-ths, rounded half
up first to `1/N`-ths (`N` even, above `D`) and then to whole numbers, rounds as it would at
once. The first rounding keeps the half units exact, and `u` lies at least `1/(2D)` below the
half unit above it, more than the first rounding can add. -/
theorem floor_floor_div_add_half (u : ℚ) (j : ℤ) (D N : ℕ) (hD : 0 < D) (hDN : D < N)
    (hN : Even N) (hu : u * D = j) :
    ⌊(⌊u * N + 1 / 2⌋ : ℚ) / N + 1 / 2⌋ = ⌊u + 1 / 2⌋ := by
  obtain ⟨H, rfl⟩ := hN
  set m := ⌊u + 1 / 2⌋
  set F := ⌊u * ((H + H : ℕ) : ℚ) + 1 / 2⌋
  have hm1 : (m : ℚ) ≤ u + 1 / 2 := Int.floor_le _
  have hm2 : u + 1 / 2 < m + 1 := Int.lt_floor_add_one _
  have hH : (0 : ℚ) ≤ H := Nat.cast_nonneg H
  have hD0 : (0 : ℚ) < D := by exact_mod_cast hD
  have hDH : (D : ℚ) < H + H := by exact_mod_cast hDN
  -- the half unit below `u` is a whole number of `1/N`-ths, so the first rounding stays above it
  have hlow : ((2 * m - 1) * H : ℚ) ≤ F := by
    have hmH := mul_le_mul_of_nonneg_right hm1 hH
    have : (2 * m - 1) * (H : ℤ) ≤ F := Int.le_floor.2 (by push_cast; linarith)
    exact_mod_cast this
  -- `u` is a whole number of `D`-ths strictly below the half unit above it
  have hj : 2 * j + 1 ≤ (2 * m + 1) * (D : ℤ) := by
    have huD := mul_lt_mul_of_pos_right hm2 hD0
    have : (2 * j : ℚ) < (2 * m + 1) * D := by rw [← hu]; linarith
    have : 2 * j < (2 * m + 1) * (D : ℤ) := by exact_mod_cast this
    omega
  -- so it lies `1/(2D)` below that half unit, more than the first rounding can add
  have hhigh : (F : ℚ) < (2 * m + 1) * H := by
    have hjH : ((2 * j + 1) * H : ℚ) ≤ (2 * m + 1) * D * H := by
      exact_mod_cast mul_le_mul_of_nonneg_right hj (Int.natCast_nonneg H)
    have hexp : (D : ℚ) * (u * ((H + H : ℕ) : ℚ) + 1 / 2) = 2 * j * H + D / 2 := by
      rw [← hu]; push_cast; ring
    have : F < (2 * m + 1) * (H : ℤ) := by
      rw [Int.floor_lt, ← mul_lt_mul_iff_of_pos_left hD0, hexp]
      push_cast; linarith
    exact_mod_cast this
  have hN0 : (0 : ℚ) < H + H := by linarith
  rw [Int.floor_eq_iff]
  push_cast
  constructor
  · rw [← sub_le_iff_le_add, le_div_iff₀ hN0]; linarith
  · rw [← lt_sub_iff_add_lt, div_lt_iff₀ hN0]; linarith

/-- Rounding half up to `p + k` places and then to `p` places is rounding to `p` places at once,
for a number that is a whole number of `D`-ths of a unit of the `p`-th place, `D` below `10 ^ k`. -/
theorem halfUp_halfUp {x : ℚ} {p : ℤ} {k D : ℕ} (hD : 0 < D) (hk : D < 10 ^ k)
    (hx : ∃ j : ℤ, x * 10 ^ p * D = j) : halfUp (halfUp x (p + k)) p = halfUp x p := by
  obtain ⟨j, hj⟩ := hx
  have h10 : (10 : ℚ) ≠ 0 := by norm_num
  -- `k` is positive, so `10 ^ k` is even
  have heven : Even (10 ^ k) := by
    have hk0 : k ≠ 0 := by rintro rfl; omega
    exact (Nat.even_pow' hk0).2 (by decide)
  have hpk : (10 : ℚ) ^ (p + k) = 10 ^ p * ((10 ^ k : ℕ) : ℚ) := by
    rw [zpow_add₀ h10, zpow_natCast]; push_cast; ring
  have hfirst : (⌊x * 10 ^ (p + k) + 1 / 2⌋ : ℚ) / 10 ^ (p + k) * 10 ^ p =
      (⌊x * 10 ^ p * ((10 ^ k : ℕ) : ℚ) + 1 / 2⌋ : ℚ) / ((10 ^ k : ℕ) : ℚ) := by
    rw [hpk, ← mul_assoc]
    field_simp
  unfold halfUp
  rw [hfirst, floor_floor_div_add_half (x * 10 ^ p) j D (10 ^ k) hD hk heven hj]

end Decimal

namespace Invoice

open EInvoice.Decimal

/-- Rounding half away from zero twice, as in `halfUp_halfUp`, is rounding once. -/
theorem halfAway_halfAway {x : ℚ} {p : ℤ} {k D : ℕ} (hD : 0 < D) (hk : D < 10 ^ k)
    (hx : ∃ j : ℤ, x * 10 ^ p * D = j) : halfAway (halfAway x (p + k)) p = halfAway x p := by
  by_cases h : 0 ≤ x
  · rw [halfAway_of_nonneg h, halfAway_of_nonneg (halfUp_nonneg h), halfUp_halfUp hD hk hx,
      halfAway_of_nonneg h]
  · -- a negative number is the negation of a positive one, a whole number of `D`-ths as well
    obtain ⟨y, rfl⟩ : ∃ y, x = -y := ⟨-x, (neg_neg x).symm⟩
    have hy : 0 ≤ y := by linarith
    obtain ⟨j, hj⟩ := hx
    simp only [halfAway_neg, halfAway_of_nonneg hy, halfAway_of_nonneg (halfUp_nonneg hy)]
    rw [halfUp_halfUp hD hk ⟨-j, by push_cast; linarith⟩]

/-! ## The base of a taxed amount -/

/-- At a positive rate the base is the amount without its VAT, rounded half away from zero to
sixteen places and then to the amount places. -/
theorem val_splitVat_fst_halfAway (a : Decimal) {r p : ℤ} (hr : 0 < r) :
    (splitVat a r p).1.val = halfAway (halfAway (a.val * 100 / (100 + r)) 16) p := by
  simp only [splitVat, if_neg hr.ne']
  rw [val_round_halfAway, show (a * 100) / ofInt (100 + r) = divRound (a * 100) (ofInt (100 + r)) 16
    from rfl, val_divRound_halfAway _ _ _ (by show 0 < 100 + r; omega), val_mul, val_ofInt]
  simp

/-- At rate 5 or 10 and up to fourteen places, the base of an amount that is a whole number of
units of the last place is the amount without its VAT rounded once, half away from zero. -/
theorem splitVat_fst_rounds_once {a : Decimal} {r p : ℤ} (hp : p ≤ 14)
    (ha : ∃ k : ℤ, a.val = k * 10 ^ (-p)) (hr : r = 5 ∨ r = 10) :
    (splitVat a r p).1.val = halfAway (a.val * 100 / (100 + r)) p := by
  obtain ⟨k, hk⟩ := ha
  rw [val_splitVat_fst_halfAway a (by omega)]
  have h16 : (16 : ℤ) = p + ((16 - p).toNat : ℕ) := by omega
  have hpow : 100 ≤ 10 ^ (16 - p).toNat := by
    calc 100 = 10 ^ 2 := by norm_num
      _ ≤ 10 ^ (16 - p).toNat := Nat.pow_le_pow_right (by norm_num) (by omega)
  have hcancel : (10 : ℚ) ^ (-p) * 10 ^ p = 1 := by
    rw [← zpow_add₀ (by norm_num), neg_add_cancel, zpow_zero]
  rw [h16]
  -- the exact base is a whole number of 21sts (rate 5) or 11ths (rate 10) of the last place
  rcases hr with rfl | rfl
  · refine halfAway_halfAway (D := 21) (by norm_num) (by omega) ⟨20 * k, ?_⟩
    rw [hk]; push_cast
    linear_combination (20 * k : ℚ) * hcancel
  · refine halfAway_halfAway (D := 11) (by norm_num) (by omega) ⟨10 * k, ?_⟩
    rw [hk]; push_cast
    linear_combination (10 * k : ℚ) * hcancel

/-- The VAT split of an amount at zero or two places: an exempt amount splits into zeros; at rate
5 or 10 the base is the amount times `100 / (100 + r)` rounded once, half away from zero, to the
amount places, at their exponent, and the VAT is the rest, although the quotient is first rounded
to sixteen places. For an amount at the exponent of its places, as the line amounts are, the
library computes this split without stopping. -/
theorem splitVat_rounds_once (a : Decimal) {p r : ℤ} (hp : p = 0 ∨ p = 2)
    (ha : ∃ k : ℤ, a.val = k * 10 ^ (-p)) (hr : r = 0 ∨ r = 5 ∨ r = 10) :
    (a.exp = -p → splitVatChecked a r p = .ok (splitVat a r p)) ∧
    (r = 0 → splitVat a r p = (0, 0)) ∧
    (r ≠ 0 → (splitVat a r p).1.exp = -p ∧
      (splitVat a r p).1.val = halfAway (a.val * 100 / (100 + r)) p ∧
      (splitVat a r p).2.val = a.val - (splitVat a r p).1.val) := by
  refine ⟨fun hexp => splitVatChecked_eq hexp (by omega) hr, fun h0 => h0 ▸ splitVat_zero a,
    fun h0 => ⟨?_, splitVat_fst_rounds_once (by omega) ha (by omega), ?_⟩⟩
  · simp only [splitVat, if_neg h0]
    exact round_exp _ p
  · simp [splitVat, h0]

/-- Eleven cents at rate 5: the base is `0.104761…` rounded to `0.10`, the VAT one cent. -/
example : splitVat ⟨11, -2⟩ 5 2 = (⟨10, -2⟩, ⟨1, -2⟩) := by decide

theorem elevenCents_split_rounds_once :
    ((2 : ℤ) = 0 ∨ (2 : ℤ) = 2) ∧
    (∃ k : ℤ, (⟨11, -2⟩ : Decimal).val = k * 10 ^ (-(2 : ℤ))) ∧
    ((5 : ℤ) = 0 ∨ (5 : ℤ) = 5 ∨ (5 : ℤ) = 10) ∧
    (((⟨11, -2⟩ : Decimal).exp = -2 →
        splitVatChecked ⟨11, -2⟩ 5 2 = .ok (splitVat ⟨11, -2⟩ 5 2)) ∧
      ((5 : ℤ) = 0 → splitVat ⟨11, -2⟩ 5 2 = (0, 0)) ∧
      ((5 : ℤ) ≠ 0 → (splitVat ⟨11, -2⟩ 5 2).1.exp = -2 ∧
        (splitVat ⟨11, -2⟩ 5 2).1.val =
          halfAway ((⟨11, -2⟩ : Decimal).val * 100 / (100 + ((5 : ℤ) : ℚ))) 2 ∧
        (splitVat ⟨11, -2⟩ 5 2).2.val =
          (⟨11, -2⟩ : Decimal).val - (splitVat ⟨11, -2⟩ 5 2).1.val)) := by
  have hp : (2 : ℤ) = 0 ∨ (2 : ℤ) = 2 := by decide
  have ha : ∃ k : ℤ, (⟨11, -2⟩ : Decimal).val = k * 10 ^ (-(2 : ℤ)) :=
    ⟨11, by simp [val]⟩
  have hr : (5 : ℤ) = 0 ∨ (5 : ℤ) = 5 ∨ (5 : ℤ) = 10 := by decide
  exact ⟨hp, ha, hr, splitVat_rounds_once ⟨11, -2⟩ hp ha hr⟩

end Invoice

end EInvoice
