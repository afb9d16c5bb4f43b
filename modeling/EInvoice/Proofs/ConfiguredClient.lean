import EInvoice.Config.Settings
import EInvoice.Proofs.Routing
import Mathlib

/-!
# A configured client

A configuration read from its text (`parseSettings`) has passed its check, and the check gives what
making a client needs:

* the base URL reads as a target, and it still does once its trailing slashes are removed, with
  the same scheme and host (`Net.Url.parse_of_append_slashes`: a slash can end neither a scheme nor
  an escape, and slashes alone make no host), so the client is made, with any signer or none;
* the lot limit is from 1 to the largest lot, so the assembler of a signer takes it as it is;
* a CSC comes with its identifier, so a QR link is never refused for want of either.

The paths of the services are not checked. A path that starts with `/`, holds no control byte and
whose every `%` starts an escape of two hexadecimal digits keeps the scheme and host of the base
URL, whether it holds a query or a fragment or not (`Net.Url.parse_append_escaped`); any other path
is taken as it is, and one with a bad escape gives a URL that does not read as a target
(`badEscapePath_unresolved`).
-/

namespace EInvoice.Net

open EInvoice.Text

/-! ## Slashes at the end of a URL -/

theorem isHexByte_slash : isHexByte 0x2F = false := by decide

theorem exists_cons_of_head? {t : Bytes} {b : UInt8} (h : t.head? = some b) :
    ∃ t', t = b :: t' := by
  cases t with
  | nil => cases h
  | cons c t => simp at h; exact ⟨t, by rw [h]⟩

/-- Escapes that pass with a byte after them that is no hexadecimal digit pass alone: such a byte
cannot finish an escape. -/
theorem checkEscapes_of_append_nonhex {m : UrlPart} {s t : Bytes} {c : UInt8}
    (hc : isHexByte c = false) (h : checkEscapes m (s ++ c :: t) = .ok ()) :
    checkEscapes m s = .ok () := by
  fun_induction checkEscapes m s with
  | case1 => rfl
  | case2 h1 h2 r hhex =>
    rw [List.cons_append, List.cons_append, List.cons_append, checkEscapes.eq_2, if_pos hhex] at h
    cases h
  | case3 h1 h2 r hhex isPct25 hhost =>
    rw [List.cons_append, List.cons_append, List.cons_append, checkEscapes.eq_2, if_neg hhex,
      if_pos hhost] at h
    cases h
  | case4 h1 h2 r hhex isPct25 v hhost hzone =>
    rw [List.cons_append, List.cons_append, List.cons_append, checkEscapes.eq_2, if_neg hhex,
      if_neg hhost, if_pos hzone] at h
    cases h
  | case5 h1 h2 r hhex isPct25 v hhost hzone ih =>
    rw [List.cons_append, List.cons_append, List.cons_append, checkEscapes.eq_2, if_neg hhex,
      if_neg hhost, if_neg hzone] at h
    exact ih h
  | case6 r hr =>
    -- an escape cut short: with the byte after it, one of its two digits is that byte
    rcases r with _ | ⟨x, _ | ⟨y, r⟩⟩
    · cases t with
      | nil => simp [checkEscapes] at h
      | cons y t => simp [checkEscapes, hc] at h
    · simp [checkEscapes, hc] at h
    · exact absurd rfl (hr x y r)
  | case7 d rest hd hchar =>
    rw [List.cons_append, checkEscapes.eq_4 _ _ _ hd, if_pos hchar] at h
    cases h
  | case8 d rest hd hchar ih =>
    rw [List.cons_append, checkEscapes.eq_4 _ _ _ hd, if_neg hchar] at h
    exact ih h

/-- Escapes that pass with a slash after them pass alone. -/
theorem checkEscapes_of_append_slash {m : UrlPart} {s t : Bytes} (ht : t.head? = some 0x2F)
    (h : checkEscapes m (s ++ t) = .ok ()) : checkEscapes m s = .ok () := by
  obtain ⟨t, rfl⟩ := exists_cons_of_head? ht
  exact checkEscapes_of_append_nonhex isHexByte_slash h

theorem unescape_of_checkEscapes {m : UrlPart} {s : Bytes} (h : checkEscapes m s = .ok ()) :
    unescape s m = .ok (decodeEscapes m s) := by
  simp [unescape, h, bind, Except.bind, pure, Except.pure]

theorem checkEscapes_of_withPath {u v : Url} {p : Bytes} (h : u.withPath p = .ok v) :
    checkEscapes .path p = .ok () := by
  unfold Url.withPath at h
  simp only [bind, Except.bind] at h
  split at h
  · cases h
  · exact checkEscapes_of_unescape (by assumption)

/-- A path whose escapes pass can be given to any URL. -/
theorem withPath_of_checkEscapes {p : Bytes} (hp : checkEscapes .path p = .ok ()) (u : Url) :
    ∃ v, u.withPath p = .ok v ∧ v.scheme = u.scheme ∧ v.host = u.host := by
  simp [Url.withPath, unescape_of_checkEscapes hp, bind, Except.bind, pure, Except.pure]

/-- A scheme found in a text followed by a slash was found in the text alone: a slash is no part
of a scheme. -/
theorem splitScheme_go_of_append {s t sch rest : Bytes} (ht : t.head? = some 0x2F)
    (hne : sch ≠ []) :
    ∀ (l : Bytes) (i : Nat), s.drop i = l → splitScheme.go (s ++ t) i (l ++ t) = .ok (sch, rest) →
      ∃ rest', splitScheme.go s i l = .ok (sch, rest') ∧ rest = rest' ++ t := by
  obtain ⟨t, rfl⟩ := exists_cons_of_head? ht
  intro l
  induction l with
  | nil =>
    intro i _ h
    simp [splitScheme.go] at h
    exact (hne (by simpa using h.1)).elim
  | cons c l ih =>
    intro i hl h
    have hl' : s.drop (i + 1) = l := by
      rw [← List.drop_drop, hl]; rfl
    have hi : i < s.length := by
      by_contra hc
      rw [List.drop_eq_nil_of_le (by omega)] at hl
      cases hl
    rw [List.cons_append] at h
    unfold splitScheme.go at h ⊢
    split_ifs at h ⊢
    · exact ih (i + 1) hl' h
    · simp only [Except.ok.injEq, Prod.mk.injEq] at h
      exact absurd h.1.symm hne
    · exact ih (i + 1) hl' h
    · simp only [Except.ok.injEq, Prod.mk.injEq] at h
      obtain ⟨rfl, rfl⟩ := h
      rw [List.take_append_of_le_length hi.le]
      exact ⟨l, rfl, rfl⟩
    · simp only [Except.ok.injEq, Prod.mk.injEq] at h
      exact absurd h.1.symm hne

theorem splitScheme_of_append {s t sch rest : Bytes} (ht : t.head? = some 0x2F) (hne : sch ≠ [])
    (h : splitScheme (s ++ t) = .ok (sch, rest)) :
    ∃ rest', splitScheme s = .ok (sch, rest') ∧ rest = rest' ++ t :=
  splitScheme_go_of_append ht hne s 0 rfl h

theorem splitAuthority_slashes (k : Nat) : (splitAuthority (List.replicate k 0x2F)).1 = [] := by
  cases k with
  | zero => rfl
  | succ k => simp [splitAuthority, List.replicate_succ, List.idxOf?_cons]

/-- Slashes taken off the end of a URL without fragment that reads with a scheme and a host leave
a URL that reads with the same scheme and host. -/
theorem parseNoFragment_of_append_slashes {a : Bytes} {n : Nat} {u : Url}
    (h : parseNoFragment (a ++ List.replicate (n + 1) 0x2F) = .ok u) (hs : u.scheme ≠ [])
    (hh : u.host ≠ []) :
    ∃ u', parseNoFragment a = .ok u' ∧ u'.scheme = u.scheme ∧ u'.host = u.host := by
  have hslh : (List.replicate (n + 1) (0x2F : UInt8)).head? = some 0x2F := rfl
  have hslq : (0x3F : UInt8) ∉ List.replicate (n + 1) 0x2F := fun hm => by
    have := List.eq_of_mem_replicate hm
    revert this; decide
  obtain ⟨sch, rest, ui, hc, hstar, hsc, hcond, hpre, ha, hp⟩ := parseNoFragment_of_host h hh
  have hsch : u.scheme = lowerBytes sch := (withPath_fields hp).1
  have hschne : sch ≠ [] := by
    rintro rfl
    exact hs (by simpa [lowerBytes] using hsch)
  obtain ⟨rest', hsc', rfl⟩ := splitScheme_of_append hslh hschne hsc
  have hc' : (a.any fun b => b < 0x20 || b = 0x7F) = false := by
    rw [List.any_append, Bool.or_eq_false_iff] at hc
    exact hc.1
  have hstar' : a ≠ [0x2A] := by
    rintro rfl
    simp [splitScheme, splitScheme.go] at hsc'
    exact hschne (by simpa using hsc'.1)
  have hcond' : ∀ r : Bytes,
      (!(lowerBytes sch).isEmpty || !([0x2F, 0x2F, 0x2F] : Bytes).isPrefixOf r) = true := by
    intro r
    simp [lowerBytes, hschne]
  rw [splitQuery_append hslq (by simp)] at hpre ha hp
  by_cases hq : 0x3F ∈ rest'
  · -- the slashes end the query: the authority and the path are the same
    rw [if_pos hq] at hpre ha hp
    obtain ⟨v, hv, hvs, hvh⟩ := withPath_of_checkEscapes (checkEscapes_of_withPath hp)
      { scheme := lowerBytes sch, userinfo := ui, host := u.host,
        forceQuery := (splitQuery rest').1, rawQuery := (splitQuery rest').2.2 }
    refine ⟨v, ?_, hvs.trans hsch.symm, hvh⟩
    rw [parseNoFragment_eq_withPath hc' hstar' hsc' (hcond' _) hpre ha]
    exact hv
  · rw [if_neg hq] at hpre ha hp
    have hsq := splitQuery_of_not_mem hq
    by_cases hpre' : ([0x2F, 0x2F] : Bytes).isPrefixOf rest' = true
    · -- the slashes end the path
      have hlen : 2 ≤ rest'.length := by
        revert hpre'
        rcases rest' with _ | ⟨x, _ | ⟨y, r⟩⟩ <;> simp [List.isPrefixOf]
      have hdrop : (rest' ++ List.replicate (n + 1) 0x2F).drop 2 =
          rest'.drop 2 ++ List.replicate (n + 1) 0x2F := List.drop_append_of_le_length hlen
      rw [hdrop, splitAuthority_append hslh] at ha hp
      have hpath := checkEscapes_of_append_slash hslh (checkEscapes_of_withPath hp)
      obtain ⟨v, hv, hvs, hvh⟩ := withPath_of_checkEscapes hpath
        { scheme := lowerBytes sch, userinfo := ui, host := u.host, forceQuery := false,
          rawQuery := [] }
      refine ⟨v, ?_, hvs.trans hsch.symm, hvh⟩
      rw [parseNoFragment_eq_withPath hc' hstar' hsc' (hcond' _) (by rw [hsq]; exact hpre')
        (by rw [hsq]; exact ha), hsq]
      exact hv
    · -- at most one slash before the added ones: the authority, and so the host, is empty
      have hslashes : ∃ k, rest' ++ List.replicate (n + 1) 0x2F = List.replicate k 0x2F := by
        revert hpre hpre'
        rcases rest' with _ | ⟨x, _ | ⟨y, r⟩⟩
        · intro _ _; exact ⟨n + 1, rfl⟩
        · intro hpre _
          simp only [List.cons_append, List.nil_append, List.replicate_succ, List.isPrefixOf,
            beq_iff_eq, Bool.and_true, Bool.and_eq_true] at hpre
          rw [← hpre.1]
          exact ⟨n + 2, rfl⟩
        · intro hpre hpre'
          simp only [List.cons_append, List.isPrefixOf, beq_iff_eq, Bool.and_true,
            Bool.and_eq_true] at hpre hpre'
          exact absurd hpre hpre'
      obtain ⟨k, hk⟩ := hslashes
      rw [hk, List.drop_replicate, splitAuthority_slashes] at ha
      have hnil : parseAuthority [] = .ok (none, []) := rfl
      rw [hnil] at ha
      exact absurd (Prod.mk.inj (Except.ok.inj ha)).2.symm hh

theorem encode_slashes (n : Nat) :
    encode (String.ofList (List.replicate n '/')) = List.replicate n 0x2F := by
  induction n with
  | zero => rfl
  | succ n ih =>
    rw [List.replicate_succ, List.replicate_succ, ← List.singleton_append, String.ofList_append,
      encode_append, ih]
    rfl

/-- Slashes taken off the end of a URL that reads with a scheme and a host leave a URL that reads
with the same scheme and host. -/
theorem Url.parse_of_append_slashes {a : String} {n : Nat} {u : Url}
    (h : Url.parse (a ++ String.ofList (List.replicate n '/')) = .ok u) (hs : u.scheme ≠ [])
    (hh : u.host ≠ []) : ∃ u', Url.parse a = .ok u' ∧ u'.scheme = u.scheme ∧ u'.host = u.host := by
  cases n with
  | zero => exact ⟨u, by simpa using h, rfl, rfl⟩
  | succ n =>
  have hslh : (List.replicate (n + 1) (0x2F : UInt8)).head? = some 0x2F := rfl
  have hsls : (0x23 : UInt8) ∉ List.replicate (n + 1) 0x2F := fun hm => by
    have := List.eq_of_mem_replicate hm
    revert this; decide
  unfold Url.parse at h ⊢
  rw [encode_append, encode_slashes] at h
  dsimp only at h ⊢
  cases hcut : cutAt 0x23 (encode a) with
  | mk front frag =>
  cases frag with
  | none =>
    -- no fragment: the slashes end the part before it
    have hfront : front = encode a := by
      unfold cutAt at hcut
      split at hcut <;> simp_all
    subst hfront
    rw [cutAt_append_of_none hcut hsls] at h
    dsimp only at h
    split at h
    · cases h
    · rename_i url hurl
      cases h
      obtain ⟨u', hu', hs', hh'⟩ := parseNoFragment_of_append_slashes hurl hs hh
      exact ⟨u', by rw [hu'], hs', hh'⟩
  | some f =>
    -- a fragment: the slashes end it
    rw [cutAt_append_of_some hcut] at h
    dsimp only at h ⊢
    split at h
    · cases h
    · rename_i url hurl
      obtain ⟨x, r, hxr⟩ : ∃ x r, f ++ List.replicate (n + 1) 0x2F = x :: r :=
        List.exists_cons_of_ne_nil (by simp)
      rw [hxr] at h
      dsimp only at h
      split at h
      · cases h
      · rename_i fr hfr
        cases h
        rw [← hxr] at hfr
        have hcf := checkEscapes_of_append_slash hslh (checkEscapes_of_unescape hfr)
        cases f with
        | nil => exact ⟨url, rfl, rfl, rfl⟩
        | cons c f' =>
          dsimp only
          rw [unescape_of_checkEscapes hcf]
          exact ⟨_, rfl, rfl, rfl⟩

/-! ## Paths with escapes, a query or a fragment -/

/-- A tail that keeps the scheme and host of a URL it follows: it starts a path, holds no control
byte, and each `%` in it starts an escape of two hexadecimal digits. A `?` in it starts or joins
the query, and a `#` the fragment. -/
def EscapedTail (q : Bytes) : Prop :=
  q.head? = some 0x2F ∧ (∀ b ∈ q, 0x20 ≤ b ∧ b ≠ 0x7F) ∧ checkEscapes .path q = .ok ()

instance (q : Bytes) : Decidable (EscapedTail q) := inferInstanceAs (Decidable (_ ∧ _))

example : EscapedTail (encode "/de/ws/sync/recibe.wsdl?wsdl") ∧ EscapedTail (encode "/%41") ∧
    ¬ EscapedTail (encode "/%zz") := by
  decide +kernel

/-- Escapes that pass are read through: what follows is checked as if alone. -/
theorem checkEscapes_append_of_ok {m : UrlPart} {s : Bytes} (hs : checkEscapes m s = .ok ())
    (t : Bytes) : checkEscapes m (s ++ t) = checkEscapes m t := by
  fun_induction checkEscapes m s with
  | case1 => rfl
  | case5 h1 h2 r hhex isPct25 v hhost hzone ih =>
    rw [List.cons_append, List.cons_append, List.cons_append, checkEscapes.eq_2, if_neg hhex,
      if_neg hhost, if_neg hzone]
    exact ih hs
  | case8 c rest hc hchar ih =>
    rw [List.cons_append, checkEscapes.eq_4 _ _ _ hc, if_neg hchar]
    exact ih hs
  | _ => cases hs

/-- A path and a fragment are checked alike: only their escapes are. -/
theorem checkEscapes_fragment_eq_path (s : Bytes) :
    checkEscapes .fragment s = checkEscapes .path s := by
  fun_induction checkEscapes .path s with
  | case1 => rfl
  | case2 h1 h2 r hhex => rw [checkEscapes.eq_2, if_pos hhex]
  | case3 | case4 | case7 => simp_all
  | case5 h1 h2 r hhex isPct25 v hhost hzone ih =>
    rw [checkEscapes.eq_2, if_neg hhex, if_neg (by simp), if_neg (by simp), ih]
  | case6 r hr => rw [checkEscapes.eq_3 _ _ hr]
  | case8 c rest hc hchar ih => rw [checkEscapes.eq_4 _ _ _ hc, if_neg (by simp), ih]

/-- A text cut at a separator is its front, the separator and its back, and the front does not
hold the separator. -/
theorem cutAt_eq_some {sep : UInt8} {s a r : Bytes} (h : cutAt sep s = (a, some r)) :
    s = a ++ sep :: r ∧ sep ∉ a := by
  unfold cutAt at h
  cases hs : s.idxOf? sep with
  | none => simp [hs] at h
  | some i =>
    simp only [hs, Prod.mk.injEq, Option.some.injEq] at h
    obtain ⟨rfl, rfl⟩ := h
    obtain ⟨hi, hsi, hbefore⟩ := List.idxOf?_eq_some_iff.1 hs
    refine ⟨?_, fun hm => ?_⟩
    · rw [← hsi, ← List.drop_eq_getElem_cons hi, List.take_append_drop]
    · obtain ⟨j, hj, hsj⟩ := List.getElem_of_mem hm
      rw [List.length_take] at hj
      exact hbefore j (by omega) (by rw [← hsj, List.getElem_take])

theorem cutAt_eq_none {sep : UInt8} {s a : Bytes} (h : cutAt sep s = (a, none)) :
    a = s ∧ sep ∉ s := by
  unfold cutAt at h
  cases hs : s.idxOf? sep with
  | none => simp only [hs, Prod.mk.injEq] at h; exact ⟨h.1.symm, List.idxOf?_eq_none_iff.1 hs⟩
  | some i => simp [hs] at h

/-- A text is cut at the first separator in it. -/
theorem cutAt_of_first {sep : UInt8} {a r : Bytes} (ha : sep ∉ a) :
    cutAt sep (a ++ sep :: r) = (a, some r) := by
  simp [cutAt, idxOf?_append, List.idxOf?_eq_none_iff.2 ha, List.idxOf?_cons]

/-- A tail joins the query when there is one: a `?` in it is part of the query. -/
theorem splitQuery_append_of_mem {rest q : Bytes} (hm : 0x3F ∈ rest) (hne : q ≠ []) :
    splitQuery (rest ++ q) = (false, (splitQuery rest).2.1, (splitQuery rest).2.2 ++ q) := by
  -- the `?` of the front is not the last byte, so the whole is not cut at a lone `?`
  have hlone : ¬ ((rest ++ q).getLast? = some 0x3F ∧ (rest ++ q).count 0x3F = 1) := by
    rintro ⟨hl, hc⟩
    rw [List.getLast?_append_of_ne_nil _ hne] at hl
    have hq : 0 < q.count 0x3F := List.count_pos_iff.2 (List.mem_of_getLast? hl)
    have hr : 0 < rest.count 0x3F := List.count_pos_iff.2 hm
    rw [List.count_append] at hc
    omega
  unfold splitQuery
  rw [if_neg hlone]
  split_ifs with h1
  · rw [cutAt_append_of_some (cutAt_last h1.1 h1.2)]
  · obtain ⟨a, r, hr⟩ := cutAt_some_of_mem hm
    rw [cutAt_append_of_some hr, hr]

/-- The part before the query ends at the first `?`. -/
theorem splitQuery_of_first {x q : Bytes} (hx : 0x3F ∉ x) :
    (splitQuery (x ++ 0x3F :: q)).2.1 = x := by
  unfold splitQuery
  split_ifs with hlone
  · -- a lone `?` at the end: nothing follows it
    cases q with
    | nil => exact List.dropLast_concat
    | cons c q =>
      obtain ⟨hl, hc⟩ := hlone
      rw [List.getLast?_append_of_ne_nil _ (by simp)] at hl
      have hq : 0 < (c :: q).count 0x3F :=
        List.count_pos_iff.2 (List.mem_of_getLast? (List.getLast?_cons_cons .. ▸ hl))
      rw [List.count_append, List.count_eq_zero.2 hx, List.count_cons_self] at hc
      omega
  · rw [cutAt_of_first hx]

/-- The front of an escaped tail before a byte that neither starts a path nor finishes an escape
is an escaped tail. -/
theorem EscapedTail.front {q₁ q₂ : Bytes} {c : UInt8} (hq : EscapedTail (q₁ ++ c :: q₂))
    (hc : c ≠ 0x2F) (hhex : isHexByte c = false) : EscapedTail q₁ := by
  obtain ⟨hh, hb, he⟩ := hq
  refine ⟨?_, fun b hm => hb b (List.mem_append_left _ hm), checkEscapes_of_append_nonhex hhex he⟩
  cases q₁ with
  | nil => exact absurd (Option.some.inj hh) hc
  | cons d q₁ => exact hh

/-- The back of an escaped tail after a byte other than `%` passes the escape check. -/
theorem EscapedTail.back {q₁ q₂ : Bytes} {c : UInt8} (hq : EscapedTail (q₁ ++ c :: q₂))
    (hhex : isHexByte c = false) (hc : c ≠ 0x25) : checkEscapes .path q₂ = .ok () := by
  have he := hq.2.2
  rw [checkEscapes_append_of_ok (checkEscapes_of_append_nonhex hhex he), checkEscapes.eq_4 _ _ _ hc,
    if_neg (by simp)] at he
  exact he

/-- A tail that starts a path and holds no control byte keeps a URL free of control bytes and
different from `*`. -/
theorem front_append_of_path {raw q : Bytes} (hqh : q.head? = some 0x2F)
    (hqb : ∀ b ∈ q, 0x20 ≤ b ∧ b ≠ 0x7F) (hc : (raw.any fun b => b < 0x20 || b = 0x7F) = false) :
    ((raw ++ q).any fun b => b < 0x20 || b = 0x7F) = false ∧ raw ++ q ≠ [0x2A] := by
  refine ⟨?_, fun he => ?_⟩
  · rw [List.any_append, hc, Bool.false_or, List.any_eq_false]
    intro b hb
    simp only [Bool.or_eq_true, decide_eq_true_eq, not_or]
    exact ⟨UInt8.not_lt.2 (hqb b hb).1, (hqb b hb).2⟩
  · rcases List.append_eq_singleton_iff.1 he with ⟨-, rfl⟩ | ⟨-, rfl⟩ <;> cases hqh

/-- A path that reads can be extended by bytes whose escapes pass, whatever else the URL holds. -/
theorem withPath_append_of_checkEscapes {u v : Url} {p q : Bytes} (h : u.withPath p = .ok v)
    (hq : checkEscapes .path q = .ok ()) (u' : Url) :
    ∃ v', u'.withPath (p ++ q) = .ok v' ∧ v'.scheme = u'.scheme ∧ v'.host = u'.host :=
  withPath_of_checkEscapes (checkEscapes_append (checkEscapes_of_withPath h) hq) u'

/-- The part before the query of a URL front without `?` followed by an escaped tail without `#`:
the front followed by an escaped tail, the tail's part before its first `?`. -/
theorem splitQuery_append_escaped {rest q : Bytes} (hm : 0x3F ∉ rest) (hq : EscapedTail q) :
    ∃ q₁, EscapedTail q₁ ∧ (splitQuery (rest ++ q)).2.1 = rest ++ q₁ := by
  by_cases hqm : 0x3F ∈ q
  · obtain ⟨q₁, q₂, hcut⟩ := cutAt_some_of_mem hqm
    obtain ⟨rfl, hq₁⟩ := cutAt_eq_some hcut
    refine ⟨q₁, hq.front (by decide) (by decide), ?_⟩
    rw [← List.append_assoc, splitQuery_of_first (by simp [hm, hq₁])]
  · exact ⟨q, hq, by rw [splitQuery_of_not_mem (by simp [hm, hqm])]⟩

/-- Appending an escaped tail without `#` to a URL without fragment that reads with a scheme and
a host keeps them: the tail joins the query if there is one, and otherwise its part before its
first `?` joins the path and the rest starts the query. -/
theorem parseNoFragment_append_escaped {raw q : Bytes} {u : Url} (h : parseNoFragment raw = .ok u)
    (hs : u.scheme ≠ []) (hh : u.host ≠ []) (hq : EscapedTail q) :
    ∃ u', parseNoFragment (raw ++ q) = .ok u' ∧ u'.scheme = u.scheme ∧ u'.host = u.host := by
  obtain ⟨sch, rest, ui, hc, hstar, hsc, hcond, hpre, ha, hp⟩ := parseNoFragment_of_host h hh
  obtain ⟨hc', hstar'⟩ := front_append_of_path hq.1 hq.2.1 hc
  have hqne : q ≠ [] := by rintro rfl; cases hq.1
  have hsch : sch ≠ [] := by
    intro h0
    apply hs
    rw [(withPath_fields hp).1]
    simp [h0, lowerBytes]
  have hsc' := splitScheme_append (t := q) hsc hsch
  by_cases hm : 0x3F ∈ rest
  · -- the tail joins the query; the authority and the path stay as they were
    have hsq := splitQuery_append_of_mem hm hqne
    obtain ⟨u', hu', hs', hh'⟩ := withPath_append (q := []) hp (by simp)
      { scheme := lowerBytes sch, userinfo := ui, host := u.host, forceQuery := false,
        rawQuery := (splitQuery rest).2.2 ++ q }
    refine ⟨u', ?_, hs'.trans (withPath_fields hp).1.symm, hh'⟩
    rw [parseNoFragment_eq_withPath hc' hstar' hsc' (by rw [hsq]; exact hcond)
      (by rw [hsq]; exact hpre) (by rw [hsq]; exact ha), hsq]
    simpa using hu'
  · -- the tail's part before its first `?` joins the path
    obtain ⟨q₁, hq₁, hsq'⟩ := splitQuery_append_escaped hm hq
    rw [splitQuery_of_not_mem hm] at hcond hpre ha hp
    have hlen : 2 ≤ rest.length := by
      revert hpre
      rcases rest with _ | ⟨a, _ | ⟨b, r⟩⟩ <;> simp [List.isPrefixOf]
    have hdrop : (rest ++ q₁).drop 2 = rest.drop 2 ++ q₁ := List.drop_append_of_le_length hlen
    have hscheme : (!(lowerBytes sch).isEmpty) = true := by
      simpa [List.isEmpty_iff, lowerBytes] using hsch
    obtain ⟨u', hu', hs', hh'⟩ := withPath_append_of_checkEscapes hp hq₁.2.2
      { scheme := lowerBytes sch, userinfo := ui, host := u.host,
        forceQuery := (splitQuery (rest ++ q)).1, rawQuery := (splitQuery (rest ++ q)).2.2 }
    refine ⟨u', ?_, hs'.trans (withPath_fields hp).1.symm, hh'⟩
    rw [parseNoFragment_eq_withPath hc' hstar' hsc' (by rw [hsq']; simp [hscheme])
      (by rw [hsq']; simpa using (List.isPrefixOf_iff_prefix.1 hpre).trans (List.prefix_append rest q₁))
      (by rw [hsq', hdrop, splitAuthority_append hq₁.1]; exact ha), hsq', hdrop,
      splitAuthority_append hq₁.1]
    exact hu'

/-- A fragment that reads can be extended by bytes whose escapes pass. -/
theorem unescape_fragment_append_of_checkEscapes {f q : Bytes}
    (hf : checkEscapes .fragment f = .ok ()) (hq : checkEscapes .path q = .ok ()) :
    ∃ v, unescape (f ++ q) .fragment = .ok v :=
  ⟨_, unescape_of_checkEscapes (checkEscapes_append hf (checkEscapes_fragment_eq_path q ▸ hq))⟩

/-- Appending an escaped path to a URL that reads with a scheme and a host keeps both: the path
joins the fragment if there is one; otherwise its part before its first `#` is read with the URL
and the rest is the fragment. -/
theorem Url.parse_append_escaped {b p : String} {u : Url} (h : Url.parse b = .ok u)
    (hs : u.scheme ≠ []) (hh : u.host ≠ []) (hq : EscapedTail (encode p)) :
    ∃ u', Url.parse (b ++ p) = .ok u' ∧ u'.scheme = u.scheme ∧ u'.host = u.host := by
  unfold Url.parse at h ⊢
  rw [encode_append]
  dsimp only at h ⊢
  cases hcut : cutAt 0x23 (encode b) with
  | mk a frag =>
  cases frag with
  | none =>
    rw [hcut] at h
    obtain ⟨rfl, hb⟩ := cutAt_eq_none hcut
    dsimp only at h
    split at h
    · cases h
    rename_i url hurl
    cases h
    by_cases hf : 0x23 ∈ encode p
    · -- the path's part before its first `#` is read with the URL; the rest is the fragment
      obtain ⟨p₁, p₂, hpcut⟩ := cutAt_some_of_mem hf
      obtain ⟨hp, hp₁⟩ := cutAt_eq_some hpcut
      rw [hp] at hq ⊢
      rw [← List.append_assoc, cutAt_of_first (by simp [hb, hp₁])]
      obtain ⟨u', hu', hs', hh'⟩ :=
        parseNoFragment_append_escaped hurl hs hh (hq.front (by decide) (by decide))
      have hp₂ := checkEscapes_fragment_eq_path p₂ ▸ hq.back (by decide) (by decide)
      dsimp only
      rw [hu']
      dsimp only
      cases p₂ with
      | nil => exact ⟨u', rfl, hs', hh'⟩
      | cons c r =>
        dsimp only
        rw [unescape_of_checkEscapes hp₂]
        exact ⟨_, rfl, hs', hh'⟩
    · -- no fragment: the whole path is read with the URL
      rw [cutAt_append_of_none hcut hf]
      dsimp only
      obtain ⟨u', hu', hs', hh'⟩ := parseNoFragment_append_escaped hurl hs hh hq
      exact ⟨u', by rw [hu'], hs', hh'⟩
  | some f =>
    -- a fragment: the path ends it
    rw [hcut] at h
    rw [cutAt_append_of_some hcut]
    dsimp only at h ⊢
    split at h
    · cases h
    · rename_i url hurl
      have hread : url.scheme = u.scheme ∧ url.host = u.host ∧
          checkEscapes .fragment f = .ok () := by
        cases f with
        | nil => cases h; exact ⟨rfl, rfl, rfl⟩
        | cons c r =>
          dsimp only at h
          split at h
          · cases h
          · rename_i hv; cases h; exact ⟨rfl, rfl, checkEscapes_of_unescape hv⟩
      obtain ⟨v, hv⟩ := unescape_fragment_append_of_checkEscapes hread.2.2 hq.2.2
      obtain ⟨c, r, hcr⟩ : ∃ c r, f ++ encode p = c :: r :=
        List.exists_cons_of_ne_nil (by simp [show encode p ≠ [] by rintro h0; rw [h0] at hq; cases hq.1])
      rw [hcr]
      dsimp only
      rw [← hcr, hv]
      exact ⟨_, rfl, hread.1, hread.2.1⟩

end EInvoice.Net

namespace EInvoice.Transport

open EInvoice.Net EInvoice.Text

/-! ## Targets -/

/-- A target's scheme is `http` or `https`, never empty. -/
theorem scheme_ne_nil_of_parseTarget {b : String} {u : Url} (h : parseTarget b = .ok u) :
    u.scheme ≠ [] := by
  obtain ⟨-, hs, -⟩ := parseTarget_eq_ok.1 h
  rintro he
  rw [he] at hs
  revert hs
  decide

/-- A target keeps its scheme and host when slashes are taken off its end. -/
theorem parseTarget_of_append_slashes {a : String} {n : Nat} {u : Url}
    (h : parseTarget (a ++ String.ofList (List.replicate n '/')) = .ok u) :
    ∃ u', parseTarget a = .ok u' ∧ u'.scheme = u.scheme ∧ u'.host = u.host := by
  obtain ⟨hp, hs, hh⟩ := parseTarget_eq_ok.1 h
  obtain ⟨u', hu', hs', hh'⟩ := Url.parse_of_append_slashes hp (scheme_ne_nil_of_parseTarget h) hh
  exact ⟨u', parseTarget_eq_ok.2 ⟨hu', hs' ▸ hs, hh' ▸ hh⟩, hs', hh'⟩

/-- A target followed by an escaped path is a target with the same scheme and host. -/
theorem parseTarget_append_escaped {b p : String} {u : Url} (h : parseTarget b = .ok u)
    (hq : EscapedTail (encode p)) :
    ∃ u', parseTarget (b ++ p) = .ok u' ∧ u'.scheme = u.scheme ∧ u'.host = u.host := by
  obtain ⟨hp, hs, hh⟩ := parseTarget_eq_ok.1 h
  obtain ⟨u', hu', hs', hh'⟩ := Url.parse_append_escaped hp (scheme_ne_nil_of_parseTarget h) hh hq
  exact ⟨u', parseTarget_eq_ok.2 ⟨hu', hs' ▸ hs, hh' ▸ hh⟩, hs', hh'⟩

/-- A target is routed exactly when it reads. -/
theorem resolve_eq_ok_iff {target : String} :
    (∃ r, resolve target = .ok r) ↔ ∃ u, parseTarget target = .ok u := by
  unfold resolve
  cases parseTarget target <;> simp [bind, Except.bind, pure, Except.pure]

end EInvoice.Transport

namespace EInvoice.Sifen

open EInvoice.Net EInvoice.Text EInvoice.Transport EInvoice.Assembly

/-! ## Making a client -/

/-- A text is its trailing slashes removed, followed by them. -/
theorem trimSlashes_append (s : String) :
    ∃ n, s = trimSlashes s ++ String.ofList (List.replicate n '/') := by
  obtain ⟨n, hn⟩ := dropWhile_reverse_append s.toList '/'
  refine ⟨n, String.toList_injective ?_⟩
  rw [String.toList_append, trimSlashes, String.toList_ofList, String.toList_ofList]
  exact hn

/-- A base URL that reads as a target still does without its trailing slashes, with the same
scheme and host. -/
theorem parseTarget_trimSlashes {b : String} {u : Url} (h : parseTarget b = .ok u) :
    ∃ u', parseTarget (trimSlashes b) = .ok u' ∧ u'.scheme = u.scheme ∧ u'.host = u.host := by
  obtain ⟨n, hn⟩ := trimSlashes_append b
  rw [hn] at h
  exact parseTarget_of_append_slashes h

/-- The assembler a client makes for a signer: the settings' QR links, and their lot limit when it
is positive. -/
def assemblerFor (s : ClientSettings) (now : Clock.Time) (sg : Security.Signer) : Assembler :=
  let a : Assembler := { signer := some sg, qr := s.qr, now := now }
  if s.maxLot > 0 then a.withMaxLot s.maxLot else a

/-- A client is made from settings whose base URL reads as a target: its base is the URL without
trailing slashes, its paths the settings' with the published ones for those left empty, and it
assembles with the signer when there is one. -/
theorem new_eq_of_target {s : ClientSettings} {u : Url} (h : parseTarget s.baseUrl = .ok u)
    (signer : Option Security.Signer) (now : Clock.Time) :
    Client.new s signer now =
      .ok ⟨trimSlashes s.baseUrl, s.paths.withDefaults, signer.map (assemblerFor s now), now⟩ := by
  obtain ⟨u', hu', -⟩ := parseTarget_trimSlashes h
  have hne : (trimSlashes s.baseUrl).isEmpty = false := by
    cases he : (trimSlashes s.baseUrl).isEmpty
    · rfl
    · rw [String.isEmpty_iff.1 he] at hu'
      cases hu'
  simp [Client.new, hne, resolve, hu', Except.mapError, bind, Except.bind, pure, Except.pure]
  rfl

/-- The assembler keeps the settings' QR links, and a lot limit from 1 to the largest lot. -/
theorem assemblerFor_spec {s : ClientSettings}
    (hl : 0 < s.maxLot ∧ s.maxLot ≤ Invoice.maxLotDocuments) (now : Clock.Time)
    (sg : Security.Signer) :
    (assemblerFor s now sg).qr = s.qr ∧ ((assemblerFor s now sg).maxLot : Int) = s.maxLot := by
  simp only [assemblerFor, if_pos hl.1, Assembler.withMaxLot]
  rw [if_pos hl]
  exact ⟨rfl, Int.toNat_of_nonneg hl.1.le⟩

end EInvoice.Sifen

namespace EInvoice.Assembly

open EInvoice.Xml

/-- With a CSC and its identifier, a link is never refused for want of them. -/
theorem qrLink_ne_noCsc {q : QrSettings} (hcsc : q.csc ≠ "") (hid : q.cscId ≠ "") (rde : Element) :
    qrLink q rde ≠ .error .noCsc := by
  unfold qrLink
  simp only [bind, Except.bind, pure, Except.pure, String.isEmpty_iff, hcsc, hid, or_self,
    if_false]
  -- what can still fail is the lookup of the DE and of the digest value
  split
  · split <;> simp
  · simp

end EInvoice.Assembly

namespace EInvoice.Config

open EInvoice.Transport EInvoice.Sifen EInvoice.Assembly EInvoice.Net EInvoice.Text
open EInvoice.Invoice

/-! ## A configuration that reads -/

/-- What a configuration that passes its check gives a client: a base URL that is routed, a lot
limit from 1 to the largest lot, and a CSC identifier whenever there is a CSC. -/
theorem Settings.check_eq_ok {s : Settings} (h : s.check = .ok ()) :
    (∃ r, Transport.resolve s.baseUrl = .ok r) ∧
      (1 ≤ s.maxDocuments ∧ s.maxDocuments ≤ maxLotDocuments) ∧
      (s.qr.csc ≠ "" → s.qr.cscId ≠ "") := by
  unfold Settings.check at h
  simp only [bind, Except.bind, throw, throwThe, MonadExceptOf.throw, pure, Except.pure,
    Except.mapError] at h
  cases hres : Transport.resolve s.baseUrl <;> cases hc : s.credential.check <;>
    cases hv : s.credential.validation.check <;>
    simp only [hres, hc, hv, Except.ite_error_eq_ok, reduceCtorEq, and_false] at h
  obtain ⟨-, -, hlot, hqr, -⟩ := h
  simp only [Bool.or_eq_true, decide_eq_true_eq, not_or] at hlot
  exact ⟨⟨_, rfl⟩, by omega, fun hcsc hid => hqr (by simp [hid, String.isEmpty_iff, hcsc])⟩

/-- A configuration read from its text has passed its check. -/
theorem check_of_parseSettings {env : Environment} {text : String} {s : Settings}
    (h : parseSettings env text = .ok s) : s.check = .ok () := by
  unfold parseSettings at h
  simp only [bind, Except.bind, throw, throwThe, MonadExceptOf.throw, pure, Except.pure] at h
  -- reading and decoding succeeded; what is returned is what was checked
  split at h
  · cases h
  split at h
  · cases h
  split at h
  · cases h
  split at h
  · cases h
  · rename_i hcheck
    cases h
    exact hcheck

/-- A configuration that reads from its text makes a client, with any signer or none. With a
signer the client assembles lots up to the configured limit, with QR settings whose links are
never refused for a missing CSC or CSC identifier. Each of the client's paths that starts with `/`,
holds no control byte and whose every `%` starts an escape of two hexadecimal digits gives a URL
that reads as a target, with the scheme and host of the configured base URL. -/
theorem configured_client {env : Environment} {text : String} {s : Settings}
    (h : parseSettings env text = .ok s) (signer : Option Security.Signer) (now : Clock.Time) :
    ∃ c u, Client.new s.clientSettings signer now = .ok c ∧ parseTarget s.baseUrl = .ok u ∧
      (∀ sg, signer = some sg → ∃ a, c.assembler = some a ∧ (a.maxLot : Int) = s.maxDocuments ∧
        ∀ q, a.qr = some q → ∀ rde, qrLink q rde ≠ .error .noCsc) ∧
      ∀ p ∈ [c.paths.ruc, c.paths.document, c.paths.lot, c.paths.lotQuery, c.paths.documentQuery],
        EscapedTail (encode p) → ∃ u' r, parseTarget (c.url p) = .ok u' ∧ u'.scheme = u.scheme ∧
          u'.host = u.host ∧ Transport.resolve (c.url p) = .ok r := by
  obtain ⟨hres, hlot, hqr⟩ := Settings.check_eq_ok (check_of_parseSettings h)
  obtain ⟨u, hu⟩ := resolve_eq_ok_iff.1 hres
  refine ⟨_, u, new_eq_of_target (s := s.clientSettings) hu signer now, hu, ?_, ?_⟩
  · rintro sg rfl
    obtain ⟨hq, hm⟩ := assemblerFor_spec (s := s.clientSettings)
      (by simp [Settings.clientSettings]; omega) now sg
    refine ⟨_, rfl, hm, fun q hq' rde => ?_⟩
    -- links are made only when a CSC is set, and then its identifier is set too
    rw [hq] at hq'
    simp only [Settings.clientSettings, String.isEmpty_iff] at hq'
    split at hq'
    · cases hq'
    · rename_i hcsc
      cases hq'
      exact qrLink_ne_noCsc hcsc (hqr hcsc) rde
  · intro p _ hpath
    -- the base without its trailing slashes keeps the scheme and host; an escaped path keeps them
    obtain ⟨u₁, hu₁, hs₁, hh₁⟩ := parseTarget_trimSlashes hu
    obtain ⟨u₂, hu₂, hs₂, hh₂⟩ := parseTarget_append_escaped hu₁ hpath
    obtain ⟨r, hr⟩ := resolve_eq_ok_iff.2 ⟨u₂, hu₂⟩
    exact ⟨u₂, r, hu₂, hs₂.trans hs₁, hh₂.trans hh₁, hr⟩

/-- A configuration for the test environment: a PKCS#12 credential whose password comes from the
environment, lots of at most ten documents, and QR links with a CSC. -/
def sampleSettingsText : String :=
  "credential:\n  path: firma.p12\n  password: $SIFEN_P12_PASSWORD\n" ++
  "lot:\n  maxDocuments: 10\nqr:\n  cscId: \"0001\"\n  csc: ABCD0000000000000000000000000000\n"

/-- The environment the sample configuration reads its password from. -/
def sampleEnvironment : Environment := [("SIFEN_P12_PASSWORD", "s3cret")]

theorem sampleSettings_client :
    ∃ s, parseSettings sampleEnvironment sampleSettingsText = .ok s ∧
    ∃ c u, Client.new s.clientSettings none Clock.Time.zero = .ok c ∧
      parseTarget s.baseUrl = .ok u ∧
      (∀ sg, (none : Option Security.Signer) = some sg → ∃ a, c.assembler = some a ∧
        (a.maxLot : Int) = s.maxDocuments ∧
        ∀ q, a.qr = some q → ∀ rde, qrLink q rde ≠ .error .noCsc) ∧
      ∀ p ∈ [c.paths.ruc, c.paths.document, c.paths.lot, c.paths.lotQuery, c.paths.documentQuery],
        EscapedTail (encode p) → ∃ u' r, parseTarget (c.url p) = .ok u' ∧ u'.scheme = u.scheme ∧
          u'.host = u.host ∧ Transport.resolve (c.url p) = .ok r := by
  have hs : (parseSettings sampleEnvironment sampleSettingsText).toOption.isSome = true := by
    decide +kernel
  obtain ⟨s, hs⟩ := Option.isSome_iff_exists.1 hs
  have h : parseSettings sampleEnvironment sampleSettingsText = .ok s := Except.eq_ok_of_toOption hs
  exact ⟨s, h, configured_client h none Clock.Time.zero⟩

/-- A configuration whose taxpayer-lookup path holds a bad escape. -/
def badEscapeSettingsText : String := "credential:\n  path: firma.p12\npaths:\n  ruc: /%zz\n"

/-- A path is not checked: a configuration whose taxpayer-lookup path holds a bad escape reads
from its text, and the client it makes cannot send a lookup, whose URL does not read as a
target. -/
theorem badEscapePath_unresolved :
    ∃ s c, parseSettings [] badEscapeSettingsText = .ok s ∧
      Client.new s.clientSettings none Clock.Time.zero = .ok c ∧
      c.url c.paths.ruc = "https://sifen-test.set.gov.py/%zz" ∧
      ∃ e, Transport.resolve (c.url c.paths.ruc) = .error e := by
  have hp : (parseSettings [] badEscapeSettingsText).toOption.map
      (fun s => (s.baseUrl, s.paths.ruc)) = some ("https://sifen-test.set.gov.py", "/%zz") := by
    decide +kernel
  cases hs : parseSettings [] badEscapeSettingsText with
  | error e => rw [hs] at hp; cases hp
  | ok s =>
    rw [hs] at hp
    simp only [Except.toOption, Option.map_some, Option.some.injEq, Prod.mk.injEq] at hp
    obtain ⟨hres, -⟩ := Settings.check_eq_ok (check_of_parseSettings hs)
    obtain ⟨u, hu⟩ := resolve_eq_ok_iff.1 hres
    have hurl : trimSlashes s.baseUrl ++ orDefault s.paths.ruc defaultPaths.ruc =
        "https://sifen-test.set.gov.py/%zz" := by
      rw [hp.1, hp.2]
      decide
    refine ⟨s, _, rfl, new_eq_of_target (s := s.clientSettings) hu none _, hurl, ?_⟩
    show ∃ e, Transport.resolve
      (trimSlashes s.baseUrl ++ orDefault s.paths.ruc defaultPaths.ruc) = .error e
    rw [hurl]
    exact ⟨_, rfl⟩

end EInvoice.Config
