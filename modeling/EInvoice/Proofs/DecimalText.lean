import EInvoice.Proofs.DecimalValue
import EInvoice.Proofs.Basic
import Mathlib

/-!
# Written decimals read back

A non-negative decimal is written as its digits, with a point before the last `-exp` of them
when it has places (zeros are put in front when there are fewer digits than places). Reading that
text finds no exponent and at most one point, takes the digits on both sides together as the
coefficient and counts the places after the point, so it gives back the decimal it was written
from, coefficient and exponent alike (`ofString?_render`). An amount written to `p` places
therefore reads back as the amount rounded to `p` places (`ofString?_toFixed`). The shortest
form drops the zeros that end the places; it reads back as another decimal with the same value
(`ofString?_toString`).
-/

namespace EInvoice.Decimal

open EInvoice.Text

theorem not_e_of_digit {c : Char} (h : isDigit c = true) : ¬ (c = 'e' ∨ c = 'E') := by
  rw [isDigit_iff] at h
  rintro (rfl | rfl) <;> simp at h

theorem ne_point_of_digit {c : Char} (h : isDigit c = true) : c ≠ '.' := by
  rw [isDigit_iff] at h
  rintro rfl; simp at h

/-- Digits with no sign read as their value. -/
theorem readInt_digits {cs : List Char} (hne : cs ≠ []) (hd : ∀ c ∈ cs, isDigit c = true) :
    readInt cs = (ofDigits cs).map fun v => (v : Int) := by
  obtain ⟨c, rest, rfl⟩ := List.exists_cons_of_ne_nil hne
  have hc := hd c List.mem_cons_self
  have hm : c ≠ '-' := by rw [isDigit_iff] at hc; rintro rfl; simp at hc
  have hp : c ≠ '+' := by rw [isDigit_iff] at hc; rintro rfl; simp at hc
  unfold readInt
  split
  · rename_i h; cases h; exact absurd rfl hm
  · rename_i h; cases h; exact absurd rfl hp
  · simp

/-- A number written with a point between two runs of digits reads with as many places as
digits after the point. -/
theorem ofString?_point {ip fp : List Char} (hi : ip ≠ []) (hdi : ∀ c ∈ ip, isDigit c = true)
    (hdf : ∀ c ∈ fp, isDigit c = true) (hlen : fp.length ≤ 2147483648) :
    ofString? (String.ofList (ip ++ '.' :: fp)) =
      (ofDigits (ip ++ fp)).map fun v => ⟨v, -(fp.length : Int)⟩ := by
  have hd : ∀ c ∈ ip ++ fp, isDigit c = true := by
    intro c hc; rcases List.mem_append.1 hc with h | h
    · exact hdi c h
    · exact hdf c h
  have hnoe : (ip ++ '.' :: fp).findIdx? (fun c => c = 'e' ∨ c = 'E') = none := by
    rw [List.findIdx?_eq_none_iff]
    intro c hc
    rcases List.mem_append.1 hc with h | h
    · simpa using not_e_of_digit (hdi c h)
    · rcases List.mem_cons.1 h with rfl | h
      · decide
      · simpa using not_e_of_digit (hdf c h)
  have hpoints : (ip ++ '.' :: fp).filter (· = '.') = ['.'] := by
    rw [List.filter_append, List.filter_cons_of_pos (by simp),
      List.filter_eq_nil_iff.2 fun c hc => by simpa using ne_point_of_digit (hdi c hc),
      List.filter_eq_nil_iff.2 fun c hc => by simpa using ne_point_of_digit (hdf c hc)]
    rfl
  have hint : (ip ++ '.' :: fp).filter (· ≠ '.') = ip ++ fp := by
    rw [List.filter_append, List.filter_cons_of_neg (by simp),
      List.filter_eq_self.2 fun c hc => by simpa using ne_point_of_digit (hdi c hc),
      List.filter_eq_self.2 fun c hc => by simpa using ne_point_of_digit (hdf c hc)]
  have hidx : (ip ++ '.' :: fp).findIdx? (· = '.') = some ip.length := by
    rw [List.findIdx?_append, List.findIdx?_eq_none_iff.2 fun c hc => by
      simpa using ne_point_of_digit (hdi c hc)]
    simp [List.findIdx?_cons]
  have hexp : (0 - (((ip ++ '.' :: fp).length : Int) - ip.length - 1)) = -(fp.length : Int) := by
    simp only [List.length_append, List.length_cons]; omega
  have hfits : exponentFits (-(fp.length : Int)) = true := by
    simp only [exponentFits, decide_eq_true_eq]; omega
  simp only [ofString?, String.toList_ofList, hnoe, Option.bind_eq_bind, Option.bind_some,
    hpoints, hint, hidx, readInt_digits (by simp [hi]) hd, hexp, hfits]
  cases ofDigits (ip ++ fp) <;> simp [pure]

/-- A run of digits reads as a whole number. -/
theorem ofString?_digits {cs : List Char} (hne : cs ≠ []) (hd : ∀ c ∈ cs, isDigit c = true) :
    ofString? (String.ofList cs) = (ofDigits cs).map fun v => ⟨v, 0⟩ := by
  have hnoe : cs.findIdx? (fun c => c = 'e' ∨ c = 'E') = none :=
    List.findIdx?_eq_none_iff.2 fun c hc => by simpa using not_e_of_digit (hd c hc)
  have hpoints : cs.filter (· = '.') = [] :=
    List.filter_eq_nil_iff.2 fun c hc => by simpa using ne_point_of_digit (hd c hc)
  have hint : cs.filter (· ≠ '.') = cs :=
    List.filter_eq_self.2 fun c hc => by simpa using ne_point_of_digit (hd c hc)
  have hidx : cs.findIdx? (· = '.') = none :=
    List.findIdx?_eq_none_iff.2 fun c hc => by simpa using ne_point_of_digit (hd c hc)
  simp only [ofString?, String.toList_ofList, hnoe, Option.bind_eq_bind, Option.bind_some,
    hpoints, hint, hidx, readInt_digits hne hd]
  cases ofDigits cs <;> simp [pure, exponentFits]

/-- A non-negative decimal with no places is written as its digits. -/
theorem render_of_exp_eq_zero {d : Decimal} (h : 0 ≤ d.coeff) (he : d.exp = 0) :
    d.render false = String.ofList (toDigits d.coeff.toNat) := by
  rw [render, if_pos he.ge, he, Int.toNat_zero, intPow_eq, pow_zero, mul_one]
  apply String.toList_injective
  rw [showInt_toList h, paddedDigits_one, String.toList_ofList]

/-- A non-negative decimal with places is written as digits, a point, and as many digits as
places; read together the digits are the coefficient. -/
theorem render_of_exp_neg {d : Decimal} (h : 0 ≤ d.coeff) (he : d.exp < 0) :
    ∃ ip fp, d.render false = String.ofList (ip ++ '.' :: fp) ∧ ip ≠ [] ∧
      (∀ c ∈ ip, isDigit c = true) ∧ (∀ c ∈ fp, isDigit c = true) ∧
      fp.length = d.exp.natAbs ∧ ofDigits (ip ++ fp) = some d.coeff.toNat := by
  have hdig : ∀ c ∈ toDigits d.coeff.natAbs, isDigit c = true := fun c hc => isDigit_of_mem_toDigits hc
  have hne := toDigits_ne_nil d.coeff.natAbs
  have hnat : d.coeff.natAbs = d.coeff.toNat := by omega
  have hk : 0 < d.exp.natAbs := by omega
  have hwrite : ∀ ip fp : List Char, fp ≠ [] →
      (String.ofList ip ++ if fp.isEmpty = true then "" else "." ++ String.ofList fp) =
        String.ofList (ip ++ '.' :: fp) := by
    intro ip fp hfp
    apply String.toList_injective
    simp [List.isEmpty_iff, hfp]
  simp only [render, if_neg (show ¬ 0 ≤ d.exp by omega), Bool.false_eq_true, if_false,
    if_neg (not_lt.2 h)]
  by_cases hlt : d.exp.natAbs < (toDigits d.coeff.natAbs).length
  · -- more digits than places: the point goes between them
    simp only [if_pos hlt]
    refine ⟨_, _, hwrite _ _ ?_, ?_, fun c hc => hdig c (List.mem_of_mem_take hc),
      fun c hc => hdig c (List.mem_of_mem_drop hc), ?_, ?_⟩
    · simp; omega
    · simp [hne]; omega
    · simp; omega
    · rw [List.take_append_drop, ofDigits_toDigits, hnat]
  · -- no more digits than places: a zero before the point and zeros after it
    simp only [if_neg hlt]
    refine ⟨_, _, hwrite _ _ (by simp [hne]), by simp, by simp [isDigit], ?_, ?_, ?_⟩
    · intro c hc
      rcases List.mem_append.1 hc with h | h
      · rw [List.eq_of_mem_replicate h]; rfl
      · exact hdig c h
    · simp; omega
    · rw [List.singleton_append, ← List.cons_append, ← List.replicate_succ,
        ofDigits_replicate_zero_append,
        ofDigits_toDigits, hnat]

/-- A non-negative decimal with at most as many places as an exponent can hold reads back as
itself from its written form. -/
theorem ofString?_render {d : Decimal} (h : 0 ≤ d.coeff) (he : d.exp ≤ 0)
    (hlo : -2147483648 ≤ d.exp) : ofString? (d.render false) = some d := by
  obtain ⟨c, e⟩ := d
  dsimp only at h he hlo
  rcases he.lt_or_eq with he | rfl
  · obtain ⟨ip, fp, hr, hi, hdi, hdf, hlen, hv⟩ := render_of_exp_neg (d := ⟨c, e⟩) h he
    replace hlen : fp.length = e.natAbs := hlen
    replace hv : ofDigits (ip ++ fp) = some c.toNat := hv
    rw [hr, ofString?_point hi hdi hdf (by omega), hv]
    simp only [Option.map_some, Option.some.injEq, Decimal.mk.injEq, hlen]
    omega
  · rw [render_of_exp_eq_zero (d := ⟨c, 0⟩) h rfl,
      ofString?_digits (toDigits_ne_nil _) fun _ hc => isDigit_of_mem_toDigits hc,
      ofDigits_toDigits]
    simp [Int.toNat_of_nonneg h]

/-- An amount written with `p` places reads back as the amount rounded to `p` places. -/
theorem ofString?_toFixed (d : Decimal) {p : ℤ} (h : 0 ≤ d.coeff) (hp : 0 ≤ p)
    (hp' : p ≤ 2147483648) : ofString? (d.toFixed p) = some (d.round p) := by
  have hr : 0 ≤ (d.round p).coeff := by
    rw [coeff_nonneg_iff, val_round d p h]
    exact halfUp_nonneg ((coeff_nonneg_iff d).1 h)
  rw [toFixed]
  exact ofString?_render hr (by rw [round_exp]; omega) (by rw [round_exp]; omega)

/-! ## The shortest form -/

/-- Zeros after digits multiply their value by ten each. -/
theorem ofDigits_append_zeros (cs : List Char) (n : Nat) :
    ofDigits (cs ++ List.replicate n '0') = (ofDigits cs).map (· * 10 ^ n) := by
  induction n with
  | zero => cases h : ofDigits cs <;> simp [h]
  | succ n ih =>
    rw [List.replicate_succ', ← List.append_assoc, ofDigits_snoc, ih]
    cases ofDigits cs <;> simp [isDigit, digitValue, pow_succ]
    ring

/-- The digits a non-negative decimal with places is written with: a whole part, and as many
digits after the point as places, which read together are the coefficient; the shortest form
drops the zeros that end them. -/
theorem render_parts {d : Decimal} (h : 0 ≤ d.coeff) (he : d.exp < 0) (trim : Bool) :
    ∃ ip fp, ip ≠ [] ∧ (∀ c ∈ ip, isDigit c = true) ∧ (∀ c ∈ fp, isDigit c = true) ∧
      fp.length = d.exp.natAbs ∧ ofDigits (ip ++ fp) = some d.coeff.toNat ∧
      d.render trim = String.ofList ip ++
        (if (if trim then (fp.reverse.dropWhile (· = '0')).reverse else fp).isEmpty then ""
         else "." ++ String.ofList (if trim then (fp.reverse.dropWhile (· = '0')).reverse else fp)) := by
  have hdig : ∀ c ∈ toDigits d.coeff.natAbs, isDigit c = true := fun c hc => isDigit_of_mem_toDigits hc
  have hne := toDigits_ne_nil d.coeff.natAbs
  have hnat : d.coeff.natAbs = d.coeff.toNat := by omega
  simp only [render, if_neg (show ¬ 0 ≤ d.exp by omega), if_neg (not_lt.2 h)]
  by_cases hlt : d.exp.natAbs < (toDigits d.coeff.natAbs).length
  · -- more digits than places: the point goes between them
    simp only [if_pos hlt]
    refine ⟨_, _, ?_, fun c hc => hdig c (List.mem_of_mem_take hc),
      fun c hc => hdig c (List.mem_of_mem_drop hc), ?_, ?_, rfl⟩
    · simp [hne]; omega
    · simp; omega
    · rw [List.take_append_drop, ofDigits_toDigits, hnat]
  · -- no more digits than places: a zero before the point and zeros after it
    simp only [if_neg hlt]
    refine ⟨_, _, by simp, by simp [isDigit], ?_, ?_, ?_, rfl⟩
    · intro c hc
      rcases List.mem_append.1 hc with h | h
      · rw [List.eq_of_mem_replicate h]; rfl
      · exact hdig c h
    · simp; omega
    · rw [List.singleton_append, ← List.cons_append, ← List.replicate_succ,
        ofDigits_replicate_zero_append, ofDigits_toDigits, hnat]

/-- A non-negative decimal written in its shortest form reads back with its value, when its
exponent is one a decimal can have (at least `-2^31`). -/
theorem ofString?_toString {d : Decimal} (h : 0 ≤ d.coeff) (hlo : -2147483648 ≤ d.exp) :
    ∃ d', ofString? d.toString = some d' ∧ d'.val = d.val := by
  have h10 : (10 : ℚ) ≠ 0 := by norm_num
  rcases le_or_gt 0 d.exp with he | he
  · -- no places: the whole number `coeff × 10 ^ exp` is written as its digits
    have hn : 0 ≤ d.coeff * Int.pow 10 d.exp.toNat := by
      rw [intPow_eq]; positivity
    have hw : d.toString = String.ofList (toDigits (d.coeff * Int.pow 10 d.exp.toNat).toNat) := by
      rw [Decimal.toString, render, if_pos he]
      apply String.toList_injective
      rw [showInt_toList hn, paddedDigits_one, String.toList_ofList]
    refine ⟨⟨(d.coeff * Int.pow 10 d.exp.toNat).toNat, 0⟩, ?_, ?_⟩
    · rw [hw, ofString?_digits (toDigits_ne_nil _) fun _ hc => isDigit_of_mem_toDigits hc,
        ofDigits_toDigits]
      rfl
    · have hexp : ((d.exp.toNat : ℕ) : ℤ) = d.exp := Int.toNat_of_nonneg he
      rw [intPow_eq] at hn
      simp only [val, intPow_eq, Int.toNat_of_nonneg hn, zpow_zero, mul_one, Int.cast_mul,
        Int.cast_pow, Int.cast_ofNat]
      rw [← zpow_natCast, hexp]
  · obtain ⟨ip, fp, hi, hdi, hdf, hlen, hv, hr⟩ := render_parts h he true
    obtain ⟨n, hfp⟩ := dropWhile_reverse_append fp '0'
    set fp' := (fp.reverse.dropWhile (· = '0')).reverse with hfp'
    have hdf' : ∀ c ∈ fp', isDigit c = true := fun c hc => hdf c (hfp ▸ List.mem_append_left _ hc)
    have hlen' : fp'.length + n = d.exp.natAbs := by
      rw [← hlen, hfp, List.length_append, List.length_replicate]
    rw [hfp, ← List.append_assoc, ofDigits_append_zeros] at hv
    obtain ⟨v, hv', hvc⟩ : ∃ v, ofDigits (ip ++ fp') = some v ∧ v * 10 ^ n = d.coeff.toNat := by
      cases hw : ofDigits (ip ++ fp') with
      | none => simp [hw] at hv
      | some v => simp only [hw, Option.map_some, Option.some.injEq] at hv; exact ⟨v, rfl, hv⟩
    -- the coefficient is the digits kept, times ten for each zero dropped
    have hcoeff : (d.coeff : ℚ) = (v : ℚ) * 10 ^ (n : ℤ) := by
      have : (d.coeff.toNat : ℤ) = d.coeff := Int.toNat_of_nonneg h
      rw [← this, ← hvc]; push_cast; rfl
    have hexp : (d.exp : ℤ) = -((fp'.length : ℤ) + n) := by omega
    rw [Decimal.toString, hr]
    simp only [↓reduceIte]
    by_cases hempty : fp' = []
    · -- nothing but zeros after the point: the whole part alone is written
      rw [hempty] at hv'
      simp only [List.append_nil] at hv'
      refine ⟨⟨v, 0⟩, ?_, ?_⟩
      · rw [hempty]
        simp only [List.isEmpty_nil, if_true, String.append_empty]
        rw [ofString?_digits hi hdi, hv']
        rfl
      · rw [hempty] at hexp
        simp only [val, hcoeff, hexp]
        simp
    · refine ⟨⟨v, -(fp'.length : ℤ)⟩, ?_, ?_⟩
      · have hw : String.ofList ip ++ (if fp'.isEmpty then "" else "." ++ String.ofList fp') =
            String.ofList (ip ++ '.' :: fp') := by
          apply String.toList_injective
          simp [List.isEmpty_iff, hempty]
        rw [hw, ofString?_point hi hdi hdf' (by omega), hv']
        rfl
      · simp only [val, hcoeff, hexp]
        rw [mul_assoc, ← zpow_add₀ h10]
        congr 2
        ring

end EInvoice.Decimal
