import EInvoice.Keystore.Bundle
import Mathlib

/-!
# The chain of a credential

A bundle is made of a key and a list of certificates. Its leaf is the first certificate that holds
the key's public key, and its chain is the issuer walk from the leaf over the other certificates
(`IssuerWalk`): the next certificate is the first one, in the order given, that issued the current
one and is not yet in the chain; when none did, the certificates never reached follow in the order
given. Nothing is assumed of "issued" (`Certificate.signedBy`): cycles and self-signed
certificates are allowed.

The walk is a relation that determines the chain (`IssuerWalk.unique`), and its chain is a
permutation of the certificates walked over (`IssuerWalk.perm`). The ordering keeps a pool of
certificates marked used or not, and looks for the next one at most once per certificate, so the
walk always runs to its end (`orderChain_walk`).

Main statement: `credential_chain_order`.
-/

namespace EInvoice.Keystore

open EInvoice.Pki

/-- A certificate holds the public key of a private key. -/
def KeyMatches (k : PrivateKey) (c : Certificate) : Prop :=
  ∃ pk, k.publicKey = some pk ∧ c.publicKey = some pk

theorem keyMatches_iff (k : PrivateKey) (c : Certificate) :
    KeyMatches k c ↔ (k.publicKey.isSome && c.publicKey == k.publicKey) = true := by
  unfold KeyMatches
  cases hk : k.publicKey with
  | none => simp
  | some pk =>
    simp only [Option.isSome_some, Bool.true_and, beq_iff_eq, Option.some.injEq, exists_eq_left']

/-! ## The issuer walk -/

/-- The issuer walk from a certificate over a pool of certificates not yet used, in their order:
the first one that issued the current certificate comes next and leaves the pool; when none did,
the pool follows as it stands. -/
inductive IssuerWalk : Certificate → List Certificate → List Certificate → Prop
  | stop {current : Certificate} {pool : List Certificate} :
      (∀ c ∈ pool, current.signedBy c = false) → IssuerWalk current pool pool
  | next {current c : Certificate} {pre post rest : List Certificate} :
      (∀ d ∈ pre, current.signedBy d = false) → current.signedBy c = true →
      IssuerWalk c (pre ++ post) rest → IssuerWalk current (pre ++ c :: post) (c :: rest)

/-- The first element of a list with a property splits it in one way only. -/
theorem first_split_unique {p : Certificate → Bool} {pre pre' post post' : List Certificate}
    {c c' : Certificate} (h : pre ++ c :: post = pre' ++ c' :: post')
    (hpre : ∀ d ∈ pre, p d = false) (hc : p c = true)
    (hpre' : ∀ d ∈ pre', p d = false) (hc' : p c' = true) : pre = pre' ∧ c = c' ∧ post = post' := by
  induction pre generalizing pre' with
  | nil =>
    cases pre' with
    | nil => simpa using h
    | cons d pre' =>
      -- `c` would stand before the first element with the property
      have hcd : c = d := (List.cons.inj h).1
      simp [hcd, hpre' d List.mem_cons_self] at hc
  | cons d pre ih =>
    cases pre' with
    | nil =>
      have hdc : d = c' := (List.cons.inj h).1
      simp [← hdc, hpre d List.mem_cons_self] at hc'
    | cons d' pre' =>
      obtain ⟨rfl, htail⟩ := List.cons.inj h
      obtain ⟨rfl, rfl, rfl⟩ := ih htail (fun x hx => hpre x (by simp [hx]))
        (fun x hx => hpre' x (by simp [hx]))
      exact ⟨rfl, rfl, rfl⟩

namespace IssuerWalk

/-- The chain of a walk holds each certificate of the pool once. -/
theorem perm {current : Certificate} {pool chain : List Certificate}
    (h : IssuerWalk current pool chain) : chain.Perm pool := by
  induction h with
  | stop => exact List.Perm.refl _
  | next _ _ _ ih => exact (ih.cons _).trans List.perm_middle.symm

/-- The walk from a certificate over a pool has one chain. -/
theorem unique {current : Certificate} {pool w w' : List Certificate}
    (h : IssuerWalk current pool w) (h' : IssuerWalk current pool w') : w = w' := by
  induction h generalizing w' with
  | stop hnone =>
    cases h' with
    | stop => rfl
    | next _ hc _ => simp [hnone _ (List.mem_append_right _ List.mem_cons_self)] at hc
  | @next current c pre post rest hpre hc _ ih =>
    -- the pool is split at its first issuer of `current` on both sides
    generalize hq : pre ++ c :: post = q at h'
    cases h' with
    | stop hnone => simp [hnone c (hq ▸ List.mem_append_right _ List.mem_cons_self)] at hc
    | next hpre' hc' hrest' =>
      obtain ⟨rfl, rfl, rfl⟩ := first_split_unique hq hpre hc hpre' hc'
      rw [ih hrest']

end IssuerWalk

/-! ## The pool of the ordering -/

/-- The certificates of a pool not yet used, in order. -/
def unused (pool : List (Certificate × Bool)) : List Certificate :=
  (pool.filter (!·.2)).map (·.1)

@[simp] theorem unused_nil : unused [] = [] := rfl

theorem unused_cons_used (c : Certificate) (pool : List (Certificate × Bool)) :
    unused ((c, true) :: pool) = unused pool := by
  simp [unused]

theorem unused_cons_free (c : Certificate) (pool : List (Certificate × Bool)) :
    unused ((c, false) :: pool) = c :: unused pool := by
  simp [unused]

theorem unused_fresh (certs : List Certificate) : unused (certs.map fun c => (c, false)) = certs := by
  induction certs with
  | nil => rfl
  | cons c cs ih => simp only [List.map_cons, unused_cons_free, ih]

/-- No certificate of the pool left unused issued the current one when the search finds none. -/
theorem findIdx?_none {current : Certificate} {pool : List (Certificate × Bool)}
    (h : pool.findIdx? (fun (c, used) => !used && current.signedBy c) = none) :
    ∀ c ∈ unused pool, current.signedBy c = false := by
  intro c hc
  obtain ⟨⟨c', used⟩, hmem, rfl⟩ := List.mem_map.1 hc
  have hfree : used = false := by simpa using (List.mem_filter.1 hmem).2
  have := List.findIdx?_eq_none_iff.1 h _ (List.mem_filter.1 hmem).1
  simpa [hfree] using this

/-- What one step of the search finds: the first unused certificate that issued the current one;
marking it used takes it out of the unused ones and leaves the others in order. -/
theorem findIdx?_some {current : Certificate} :
    ∀ {pool : List (Certificate × Bool)} {i : Nat},
      pool.findIdx? (fun (c, used) => !used && current.signedBy c) = some i →
      ∃ pre post, unused pool = pre ++ (pool.getD i (current, true)).1 :: post ∧
        (∀ d ∈ pre, current.signedBy d = false) ∧
        current.signedBy (pool.getD i (current, true)).1 = true ∧
        unused (pool.set i ((pool.getD i (current, true)).1, true)) = pre ++ post
  | [], _, h => by simp at h
  | (c, used) :: pool, i, h => by
    rw [List.findIdx?_cons] at h
    by_cases hfound : (!used && current.signedBy c) = true
    · -- the head is the certificate found
      simp only [hfound, if_true, Option.some.injEq] at h
      subst h
      obtain ⟨rfl, hc⟩ : used = false ∧ current.signedBy c = true := by simpa using hfound
      exact ⟨[], unused pool, by simp [unused_cons_free], by simp, hc, by simp [unused_cons_used]⟩
    · simp only [hfound, Bool.false_eq_true, if_false] at h
      obtain ⟨j, hj, rfl⟩ := Option.map_eq_some_iff.1 h
      obtain ⟨pre, post, hsplit, hpre, hc, hset⟩ := findIdx?_some hj
      cases used with
      | true =>
        refine ⟨pre, post, ?_, hpre, ?_, ?_⟩ <;>
          simpa [List.getD_cons_succ, List.set_cons_succ, unused_cons_used] using ‹_›
      | false =>
        have hno : current.signedBy c = false := by simpa using hfound
        refine ⟨c :: pre, post, ?_, ?_, ?_, ?_⟩
        · simpa [List.getD_cons_succ, unused_cons_free] using hsplit
        · intro d hd
          rcases List.mem_cons.1 hd with rfl | hd
          · exact hno
          · exact hpre d hd
        · simpa [List.getD_cons_succ] using hc
        · simpa [List.getD_cons_succ, List.set_cons_succ, unused_cons_free] using hset

/-! ## The ordering -/

/-- With at least as much fuel as unused certificates, the ordering appends the whole issuer walk
over the unused ones: every step uses a certificate up, so the fuel never runs out first. -/
theorem orderChain_go_walk :
    ∀ (fuel : Nat) (current : Certificate) (pool : List (Certificate × Bool))
      (acc : List Certificate), (unused pool).length ≤ fuel →
      ∃ w, orderChain.go fuel current pool acc = acc ++ w ∧ IssuerWalk current (unused pool) w
  | 0, current, pool, acc, hlen => by
    have hnil : unused pool = [] := List.eq_nil_of_length_eq_zero (Nat.le_zero.1 hlen)
    refine ⟨[], ?_, ?_⟩
    · simpa [orderChain.go, unused] using congrArg (acc ++ ·) hnil
    · rw [hnil]
      exact .stop (by simp)
  | fuel + 1, current, pool, acc, hlen => by
    cases hfind : pool.findIdx? (fun (c, used) => !used && current.signedBy c) with
    | none =>
      refine ⟨unused pool, ?_, .stop (findIdx?_none hfind)⟩
      simp [orderChain.go, hfind, unused]
    | some i =>
      obtain ⟨pre, post, hsplit, hpre, hc, hset⟩ := findIdx?_some hfind
      have hfuel : (unused (pool.set i ((pool.getD i (current, true)).1, true))).length ≤ fuel := by
        rw [hset]
        rw [hsplit] at hlen
        simp only [List.length_append, List.length_cons] at hlen ⊢
        omega
      obtain ⟨w, hw, hwalk⟩ := orderChain_go_walk fuel (pool.getD i (current, true)).1 _
        (acc ++ [(pool.getD i (current, true)).1]) hfuel
      refine ⟨(pool.getD i (current, true)).1 :: w, ?_, ?_⟩
      · rw [orderChain.go, hfind]
        simp only [hw, List.append_assoc, List.singleton_append]
      · rw [hsplit]
        rw [hset] at hwalk
        exact .next hpre hc hwalk

/-- The ordering of a chain is the issuer walk from the leaf over the certificates given. -/
theorem orderChain_walk (leaf : Certificate) (certs : List Certificate) :
    IssuerWalk leaf certs (orderChain leaf certs) := by
  obtain ⟨w, hw, hwalk⟩ := orderChain_go_walk certs.length leaf (certs.map fun c => (c, false)) []
    (by rw [unused_fresh])
  rw [unused_fresh] at hwalk
  simpa [orderChain, hw] using hwalk

/-! ## The leaf -/

theorem splitFirst_eq_none_iff {p : Certificate → Bool} {certs : List Certificate} :
    splitFirst p certs = none ↔ ∀ c ∈ certs, p c = false := by
  induction certs with
  | nil => simp [splitFirst]
  | cons c cs ih => by_cases hc : p c = true <;> simp [splitFirst, hc, ih]

/-- `splitFirst` gives the first certificate with the property and the others in order. -/
theorem splitFirst_eq_some_iff {p : Certificate → Bool} :
    ∀ {certs rest : List Certificate} {l : Certificate},
      splitFirst p certs = some (l, rest) ↔
        ∃ pre post, certs = pre ++ l :: post ∧ (∀ d ∈ pre, p d = false) ∧ p l = true ∧
          rest = pre ++ post
  | [], _, _ => by simp [splitFirst]
  | c :: cs, rest, l => by
    by_cases hc : p c = true
    · simp only [splitFirst, hc, if_true, Option.some.injEq, Prod.mk.injEq]
      constructor
      · rintro ⟨rfl, rfl⟩
        exact ⟨[], cs, rfl, by simp, hc, rfl⟩
      · rintro ⟨pre, post, hsplit, hpre, hl, rfl⟩
        cases pre with
        | nil => simp_all
        | cons d pre =>
          obtain ⟨rfl, -⟩ := List.cons.inj hsplit
          simp_all
    · have hc : p c = false := by simpa using hc
      simp only [splitFirst, hc, Bool.false_eq_true, if_false, Option.map_eq_some_iff,
        Prod.exists, Prod.mk.injEq]
      constructor
      · rintro ⟨l', rest', hsome, rfl, rfl⟩
        obtain ⟨pre, post, rfl, hpre, hl, rfl⟩ := splitFirst_eq_some_iff.1 hsome
        refine ⟨c :: pre, post, rfl, ?_, hl, rfl⟩
        intro d hd
        rcases List.mem_cons.1 hd with rfl | hd
        · exact hc
        · exact hpre d hd
      · rintro ⟨pre, post, hsplit, hpre, hl, rfl⟩
        cases pre with
        | nil => simp_all
        | cons d pre =>
          obtain ⟨rfl, htail⟩ := List.cons.inj hsplit
          exact ⟨l, pre ++ post, splitFirst_eq_some_iff.2 ⟨pre, post, htail,
            fun x hx => hpre x (by simp [hx]), hl, rfl⟩, rfl, rfl⟩

/-! ## Bundles -/

/-- What the bundle of a key and certificates is: the key, the first certificate that holds the
key's public key as leaf, and the issuer walk from the leaf over the other certificates as chain. -/
structure BundleOf (k : PrivateKey) (certs : List Certificate) (b : Bundle) : Prop where
  key : b.key = k
  split : ∃ pre post, certs = pre ++ b.certificate :: post ∧ (∀ c ∈ pre, ¬ KeyMatches k c) ∧
    KeyMatches k b.certificate ∧ IssuerWalk b.certificate (pre ++ post) b.chain

theorem BundleOf.perm {k : PrivateKey} {certs : List Certificate} {b : Bundle}
    (h : BundleOf k certs b) : (b.certificate :: b.chain).Perm certs := by
  obtain ⟨pre, post, rfl, -, -, hwalk⟩ := h.split
  exact (hwalk.perm.cons _).trans List.perm_middle.symm

theorem newBundle_some (k : PrivateKey) (certs : List Certificate) :
    newBundle (some k) certs =
      match splitFirst (fun c => k.publicKey.isSome && c.publicKey == k.publicKey) certs with
      | none => .error .noMatch
      | some (leaf, rest) => .ok ⟨k, leaf, orderChain leaf rest⟩ := rfl

theorem newBundle_eq_noMatch_iff (k : PrivateKey) (certs : List Certificate) :
    newBundle (some k) certs = .error .noMatch ↔ ∀ c ∈ certs, ¬ KeyMatches k c := by
  simp only [keyMatches_iff, Bool.not_eq_true, newBundle_some]
  rw [← splitFirst_eq_none_iff]
  cases splitFirst _ certs <;> simp

theorem newBundle_eq_ok_iff (k : PrivateKey) (certs : List Certificate) (b : Bundle) :
    newBundle (some k) certs = .ok b ↔ BundleOf k certs b := by
  simp only [newBundle_some]
  constructor
  · intro h
    cases hs : splitFirst (fun c => k.publicKey.isSome && c.publicKey == k.publicKey) certs with
    | none => simp [hs] at h
    | some p =>
      obtain ⟨leaf, rest⟩ := p
      simp only [hs, Except.ok.injEq] at h
      subst h
      obtain ⟨pre, post, rfl, hpre, hl, rfl⟩ := splitFirst_eq_some_iff.1 hs
      refine ⟨rfl, pre, post, rfl, fun c hc => ?_, (keyMatches_iff k leaf).2 hl, orderChain_walk _ _⟩
      simpa [keyMatches_iff] using hpre c hc
  · rintro ⟨hk, pre, post, hsplit, hpre, hl, hwalk⟩
    have hs : splitFirst (fun c => k.publicKey.isSome && c.publicKey == k.publicKey) certs =
        some (b.certificate, pre ++ post) :=
      splitFirst_eq_some_iff.2 ⟨pre, post, hsplit, fun c hc => by simpa [keyMatches_iff] using hpre c hc,
        (keyMatches_iff k _).1 hl, rfl⟩
    obtain ⟨key, leaf, chain⟩ := b
    simp only at hk hwalk
    subst hk
    simp [hs, (orderChain_walk leaf (pre ++ post)).unique hwalk]

/-- A bundle is loaded from a key and certificates as follows. Without a key the credential is not
found. With one, loading fails exactly when no certificate holds the key's public key, and then
as an invalid credential. Otherwise the leaf is the first certificate that holds it, and the chain
is the issuer walk from the leaf over the other certificates: the first unused certificate, in
the order given, that issued the last one, for as long as there is one, then the certificates
never reached in the order given. Leaf and chain hold every certificate given once. -/
theorem credential_chain_order (certs : List Certificate) :
    newBundle none certs = .error .noKey ∧
    ∀ k : PrivateKey,
      (newBundle (some k) certs = .error .noMatch ↔ ∀ c ∈ certs, ¬ KeyMatches k c) ∧
      (∀ e, newBundle (some k) certs = .error e → e = .noMatch) ∧
      (∀ b, newBundle (some k) certs = .ok b ↔ BundleOf k certs b) ∧
      (∀ b, newBundle (some k) certs = .ok b → (b.certificate :: b.chain).Perm certs) := by
  refine ⟨rfl, fun k => ⟨newBundle_eq_noMatch_iff k certs, fun e he => ?_,
    newBundle_eq_ok_iff k certs, fun b hb => ((newBundle_eq_ok_iff k certs b).1 hb).perm⟩⟩
  rw [newBundle_some] at he
  split at he <;> simp_all

end EInvoice.Keystore
