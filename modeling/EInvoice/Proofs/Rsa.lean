import EInvoice.Crypto.Rsa
import Mathlib

/-!
# RSA signatures verify

A signature made with a private exponent verifies under the public exponent whenever the two
undo each other below the modulus (`KeyInverts`): the signature of a digest is its encoded
message raised to the private exponent, and raising that to the public one gives the encoded
message back (`verifyDigest_signDigest`).

Such keys exist beyond the two-prime keys of practice: a modulus that is a product of
distinct primes `p`, each with `p - 1` dividing `L`, is undone by any pair of exponents whose
product is `1` modulo `L` (`keyInverts_of_primes`).
-/

namespace EInvoice.Crypto

open EInvoice.Asn1 EInvoice.Text

/-! ## Modular powers -/

/-- Repeated squaring computes the power: the accumulator times the rest of the power. -/
theorem powMod_go_eq (m : Nat) (hm : 1 < m) (b e acc : Nat) (hacc : acc < m) :
    powMod.go m b e acc = acc * b ^ e % m := by
  induction e using Nat.strong_induction_on generalizing b acc with
  | _ e ih =>
    rw [powMod.go]
    by_cases he : e = 0
    · simp [he, Nat.mod_eq_of_lt hacc]
    · simp only [he, dite_false]
      have hhalf : e / 2 < e := Nat.div_lt_self (Nat.pos_of_ne_zero he) (by decide)
      have hsplit : b ^ e = (b * b) ^ (e / 2) * b ^ (e % 2) := by
        rw [← pow_two, ← pow_mul, ← pow_add, Nat.div_add_mod]
      split
      · rename_i hodd
        rw [ih _ hhalf _ _ (Nat.mod_lt _ (by omega)), hsplit, hodd, Nat.mod_mul_mod, pow_one,
          Nat.mul_mod, Nat.pow_mod, Nat.mod_mod, ← Nat.pow_mod, ← Nat.mul_mod]
        ring_nf
      · rename_i heven
        have h0 : e % 2 = 0 := by omega
        rw [ih _ hhalf _ _ hacc, hsplit, h0, pow_zero, mul_one, Nat.mul_mod, Nat.pow_mod,
          Nat.mod_mod, ← Nat.pow_mod, ← Nat.mul_mod]

theorem powMod_eq (b e m : Nat) (hm : 1 < m) : powMod b e m = b ^ e % m := by
  rw [powMod, if_neg (by omega), powMod_go_eq m hm _ _ _ hm, one_mul, ← Nat.pow_mod]

/-! ## Numbers written in bytes -/

theorem length_bigEndian (k v : Nat) : (bigEndian k v).length = k := by
  simp [bigEndian]

theorem bigEndian_succ (k v : Nat) :
    bigEndian (k + 1) v = (v / 256 ^ k % 256).toUInt8 :: bigEndian k v := by
  simp [bigEndian, List.range_succ, Nat.pow_eq]

/-- Only the last `k` bytes of a number are written in `k` bytes. -/
theorem bigEndian_mod (k v : Nat) : bigEndian k (v % 256 ^ k) = bigEndian k v := by
  unfold bigEndian
  refine List.map_congr_left fun i hi => ?_
  have hik : i < k := by simpa using hi
  -- below the `k`-th byte, reducing modulo `256 ^ k` changes nothing
  obtain ⟨j, rfl⟩ : ∃ j, k = i + 1 + j := ⟨k - (i + 1), by omega⟩
  rw [Nat.pow_eq, pow_add, pow_add, pow_one, mul_assoc, Nat.mod_mul_right_div_self,
    Nat.mod_mul_right_mod]

/-- Reading bytes after a first value: the value shifted past them, plus the bytes. -/
theorem foldl_unsigned (a : Nat) (bs : Bytes) :
    bs.foldl (fun acc b => acc * 256 + b.toNat) a = a * 256 ^ bs.length + Asn1.unsigned bs := by
  induction bs generalizing a with
  | nil =>
    rw [List.foldl_nil, List.length_nil, pow_zero, mul_one]
    rfl
  | cons b bs ih =>
    rw [List.foldl_cons, ih]
    conv_rhs => rw [Asn1.unsigned, List.foldl_cons, ih]
    simp only [List.length_cons, pow_succ, zero_mul, zero_add]
    ring

theorem unsigned_cons (b : UInt8) (bs : Bytes) :
    Asn1.unsigned (b :: bs) = b.toNat * 256 ^ bs.length + Asn1.unsigned bs := by
  rw [Asn1.unsigned, List.foldl_cons, foldl_unsigned]
  simp

theorem unsigned_lt (bs : Bytes) : Asn1.unsigned bs < 256 ^ bs.length := by
  induction bs with
  | nil => simp [Asn1.unsigned]
  | cons b bs ih =>
    rw [unsigned_cons, List.length_cons, pow_succ]
    have hb : b.toNat < 256 := b.toNat_lt
    nlinarith

theorem unsigned_bigEndian {k v : Nat} (h : v < 256 ^ k) : Asn1.unsigned (bigEndian k v) = v := by
  induction k generalizing v with
  | zero => simp_all [bigEndian, Asn1.unsigned]
  | succ k ih =>
    rw [bigEndian_succ, unsigned_cons, length_bigEndian, ← bigEndian_mod,
      ih (Nat.mod_lt _ (by positivity))]
    have hdiv : v / 256 ^ k < 256 := by
      rw [Nat.div_lt_iff_lt_mul (by positivity)]
      simpa [pow_succ, mul_comm] using h
    simp [Nat.mod_eq_of_lt hdiv, Nat.div_add_mod']

theorem bigEndian_unsigned (bs : Bytes) : bigEndian bs.length (Asn1.unsigned bs) = bs := by
  induction bs with
  | nil => rfl
  | cons b bs ih =>
    have hrest := unsigned_lt bs
    have hdiv : Asn1.unsigned (b :: bs) / 256 ^ bs.length = b.toNat := by
      rw [unsigned_cons, Nat.add_comm, Nat.add_mul_div_right _ _ (by positivity),
        Nat.div_eq_of_lt hrest, zero_add]
    have hmod : Asn1.unsigned (b :: bs) % 256 ^ bs.length = Asn1.unsigned bs := by
      rw [unsigned_cons, Nat.add_comm, Nat.add_mul_mod_self_right, Nat.mod_eq_of_lt hrest]
    rw [List.length_cons, bigEndian_succ, hdiv, ← bigEndian_mod, hmod, ih]
    simp [Nat.mod_eq_of_lt b.toNat_lt]

/-! ## The size of a modulus -/

/-- A modulus is at least its top byte's place and below the next. -/
theorem modulusBytes_bounds {n : Nat} (hn : n ≠ 0) :
    256 ^ (modulusBytes n - 1) ≤ n ∧ n < 256 ^ modulusBytes n := by
  have hlow := Nat.log2_self_le hn
  have hhigh := Nat.lt_log2_self (n := n)
  have h256 : ∀ j, (256 : Nat) ^ j = 2 ^ (8 * j) := fun j => by rw [pow_mul]; rfl
  unfold modulusBytes
  rw [h256, h256]
  constructor
  · exact le_trans (Nat.pow_le_pow_right (by decide) (by omega)) hlow
  · exact lt_of_lt_of_le hhigh (Nat.pow_le_pow_right (by decide) (by omega))

/-- An encoded message starts with a zero byte and is as long as the modulus. -/
theorem encodeDigestWith_shape {pre : Bytes} {k : Nat} {digest em : Bytes}
    (h : encodeDigestWith pre k digest = some em) :
    em.length = k ∧ pre.length + digest.length + 11 ≤ k ∧ ∃ rest, em = 0 :: rest := by
  unfold encodeDigestWith at h
  dsimp only at h
  split at h
  · cases h
  · cases h
    rename_i hk
    refine ⟨?_, by simpa using hk, _, rfl⟩
    simp only [List.length_append, List.length_cons, List.length_nil, List.length_replicate] at hk ⊢
    omega

/-! ## Signatures verify -/

/-- A public and a private exponent that undo each other below the modulus. -/
def KeyInverts (n e d : Nat) : Prop := ∀ m < n, (m ^ d % n) ^ e % n = m

/-- A signature made with a private exponent verifies under a public exponent that undoes it. -/
theorem verifyDigest_signDigest {n e d : Nat} {digest sig : Bytes} (hkey : KeyInverts n e d)
    (h : signDigest n d digest = .ok sig) : verifyDigest n e digest sig = true := by
  unfold signDigest at h
  dsimp only at h
  split at h
  · cases h
  rename_i em hem
  cases h
  obtain ⟨hlen, hroom, rest, rfl⟩ := encodeDigestWith_shape hem
  -- the modulus has room for the message, so it is not zero and exceeds the message
  have hn : n ≠ 0 := by
    rintro rfl
    simp [modulusBytes] at hroom
  obtain ⟨hlow, hhigh⟩ := modulusBytes_bounds hn
  have hm : Asn1.unsigned (0 :: rest) < n := by
    have hk : rest.length = modulusBytes n - 1 := by simp at hlen; omega
    have hrest := unsigned_lt rest
    rw [hk] at hrest
    rw [unsigned_cons]
    simp only [UInt8.toNat_zero, zero_mul, zero_add]
    omega
  have hn1 : 1 < n := by
    have : 256 ^ 10 ≤ 256 ^ (modulusBytes n - 1) := Nat.pow_le_pow_right (by decide) (by omega)
    omega
  set m := Asn1.unsigned (0 :: rest)
  have hc : m ^ d % n < 256 ^ modulusBytes n := lt_trans (Nat.mod_lt _ (by omega)) hhigh
  have hem' : encodeDigestWith sha256Prefix (modulusBytes n) digest = some (0 :: rest) := hem
  unfold verifyDigest verifyDigestWith
  dsimp only
  rw [hem']
  simp only [powMod_eq _ _ _ hn1, unsigned_bigEndian hc, length_bigEndian, hkey m hm]
  rw [← hlen, bigEndian_unsigned]
  simp [Nat.mod_lt _ (show 0 < n by omega)]

/-! ## Keys from primes -/

/-- Raising to a power one above a multiple of `p - 1` gives a number back modulo the prime `p`
(Fermat's little theorem, with the multiples of `p` apart). -/
theorem pow_mul_add_one_modEq {p L m : Nat} (hp : p.Prime) (hL : p - 1 ∣ L) (k : Nat) :
    m ^ (L * k + 1) ≡ m [MOD p] := by
  by_cases hpm : p ∣ m
  · -- both sides are multiples of `p`
    have hpow : p ∣ m ^ (L * k + 1) := dvd_pow hpm (Nat.succ_ne_zero _)
    exact (Nat.modEq_zero_iff_dvd.2 hpow).trans (Nat.modEq_zero_iff_dvd.2 hpm).symm
  · obtain ⟨c, rfl⟩ := hL
    have hfermat := Nat.ModEq.pow_card_sub_one_eq_one hp
      ((Nat.Prime.coprime_iff_not_dvd hp).2 hpm).symm
    calc m ^ ((p - 1) * c * k + 1) = (m ^ (p - 1)) ^ (c * k) * m := by
          rw [pow_succ, pow_mul, pow_mul, pow_mul]
      _ ≡ 1 ^ (c * k) * m [MOD p] := (hfermat.pow _).mul_right _
      _ = m := by simp

/-- A modulus that is a product of distinct primes is undone by exponents whose product is one
above a multiple of every `p - 1`. -/
theorem keyInverts_of_primes {ps : List Nat} (hp : ∀ p ∈ ps, p.Prime) (hnd : ps.Nodup)
    {L e d : Nat} (hL : ∀ p ∈ ps, p - 1 ∣ L) (hed : e * d % L = 1) : KeyInverts ps.prod e d := by
  intro m hm
  have hco : ps.Pairwise Nat.Coprime :=
    hnd.imp_of_mem fun ha hb hab => (Nat.coprime_primes (hp _ ha) (hp _ hb)).2 hab
  have hexp : d * e = L * (e * d / L) + 1 := by
    rw [Nat.mul_comm d e]
    exact (hed ▸ (Nat.div_add_mod (e * d) L)).symm
  -- modulo every prime, and so modulo their product, the two powers give `m` back
  have hmod : m ^ (d * e) ≡ m [MOD ps.prod] := by
    rw [Nat.modEq_list_prod_iff hco, hexp]
    intro i
    exact pow_mul_add_one_modEq (hp _ (List.get_mem ps i)) (hL _ (List.get_mem ps i)) _
  rw [← Nat.pow_mod, ← pow_mul, hmod, Nat.mod_eq_of_lt hm]

end EInvoice.Crypto
