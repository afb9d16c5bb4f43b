import EInvoice.Sifen.Basic
import EInvoice.Proofs.Basic
import Mathlib

/-!
# The route of each operation of a client

A client sends each operation to its base URL followed by the operation's path, and the route
(SOAP dialect and headers) is chosen by looking for the table's markers anywhere in that whole
URL, in lower case, with the environment read from its host.

Two things make the route a matter of the operation alone:

* appending a plain path to a URL that reads with a host keeps how its front is read: the scheme
  and the host do not change, whether the path joins the URL's path, its query or its fragment
  (`Net.Url.parse_append`);
* a marker can only be found in a base followed by a path in the path itself, when the base
  mentions no marker and no proper end of a marker starts the path (`Transport.lookup_append`).

The published paths start with `/de/ws/`, which no proper end of a marker starts, so for a base
URL that mentions no marker in any letter case each operation gets its own route, and the taxpayer
lookup its test route exactly when the base's host is the test host in lower case
(`Client.operation_routes`). A base that mentions a marker sends every operation by that
marker's route instead (`Client.markedHost_routes_documents_as_ruc`).
-/

namespace EInvoice.Net

open EInvoice.Text

/-! ## Cutting a byte string that goes on -/

theorem idxOf?_append (a : UInt8) (s t : Bytes) :
    (s ++ t).idxOf? a = (s.idxOf? a).or ((t.idxOf? a).map (· + s.length)) := by
  simp [List.idxOf?, List.findIdx?_append]

theorem idxOf?_lt {a : UInt8} {s : Bytes} {i : Nat} (h : s.idxOf? a = some i) : i < s.length :=
  (List.idxOf?_eq_some_iff.1 h).1

theorem cutAt_of_not_mem {sep : UInt8} {s : Bytes} (h : sep ∉ s) : cutAt sep s = (s, none) := by
  simp [cutAt, List.idxOf?_eq_none_iff.2 h]

theorem cutAt_some_of_mem {sep : UInt8} {s : Bytes} (h : sep ∈ s) :
    ∃ a r, cutAt sep s = (a, some r) := by
  unfold cutAt
  cases hs : s.idxOf? sep with
  | none => exact absurd h (List.idxOf?_eq_none_iff.1 hs)
  | some i => exact ⟨_, _, rfl⟩

/-- A text cut at a separator keeps its front when more follows; what follows joins the back. -/
theorem cutAt_append_of_some {sep : UInt8} {s t a r : Bytes} (h : cutAt sep s = (a, some r)) :
    cutAt sep (s ++ t) = (a, some (r ++ t)) := by
  unfold cutAt at h ⊢
  cases hs : s.idxOf? sep with
  | none => simp [hs] at h
  | some i =>
    simp only [hs, Prod.mk.injEq, Option.some.injEq] at h
    obtain ⟨rfl, rfl⟩ := h
    have hi := idxOf?_lt hs
    simp [idxOf?_append, hs, List.take_append_of_le_length hi.le,
      List.drop_append_of_le_length (Nat.succ_le_of_lt hi)]

theorem cutAt_append_of_none {sep : UInt8} {s t a : Bytes} (h : cutAt sep s = (a, none))
    (ht : sep ∉ t) : cutAt sep (s ++ t) = (s ++ t, none) := by
  unfold cutAt at h ⊢
  cases hs : s.idxOf? sep with
  | none => simp [idxOf?_append, hs, List.idxOf?_eq_none_iff.2 ht]
  | some i => simp [hs] at h

/-- A separator that ends a text and occurs nowhere else cuts off nothing after it. -/
theorem cutAt_last {sep : UInt8} {s : Bytes} (hl : s.getLast? = some sep) (hc : s.count sep = 1) :
    cutAt sep s = (s.dropLast, some []) := by
  have hs : s = s.dropLast ++ [sep] := (List.dropLast_append_getLast? _ hl).symm
  have hn : sep ∉ s.dropLast := by
    intro hm
    rw [hs, List.count_append] at hc
    have := List.count_pos_iff.2 hm
    simp at hc
    omega
  rw [hs]
  simp [cutAt, idxOf?_append, List.idxOf?_eq_none_iff.2 hn]

/-! ## The parts of a URL's front -/

/-- A scheme that was found stays the same when more follows; what follows joins the rest. -/
theorem splitScheme_go_append {s t sch rest : Bytes} (hne : sch ≠ []) :
    ∀ (l : Bytes) (i : Nat), s.drop i = l → splitScheme.go s i l = .ok (sch, rest) →
      splitScheme.go (s ++ t) i (l ++ t) = .ok (sch, rest ++ t) := by
  intro l
  induction l with
  | nil =>
    intro i _ h
    simp only [splitScheme.go, Except.ok.injEq, Prod.mk.injEq] at h
    exact absurd h.1.symm hne
  | cons c l ih =>
    intro i hl h
    have hl' : s.drop (i + 1) = l := by
      rw [← List.drop_drop, hl]; rfl
    have hi : i < s.length := by
      by_contra hc
      rw [List.drop_eq_nil_of_le (by omega)] at hl
      cases hl
    rw [List.cons_append]
    unfold splitScheme.go at h ⊢
    -- a letter, or a digit or `+-.` after the first byte, goes on; a `:` ends the scheme
    split_ifs at h ⊢
    · exact ih (i + 1) hl' h
    · simp only [Except.ok.injEq, Prod.mk.injEq] at h
      exact absurd h.1.symm hne
    · exact ih (i + 1) hl' h
    · simp only [Except.ok.injEq, Prod.mk.injEq] at h
      obtain ⟨rfl, rfl⟩ := h
      rw [List.take_append_of_le_length hi.le]
    · simp only [Except.ok.injEq, Prod.mk.injEq] at h
      exact absurd h.1.symm hne

theorem splitScheme_append {s t sch rest : Bytes} (h : splitScheme s = .ok (sch, rest))
    (hne : sch ≠ []) : splitScheme (s ++ t) = .ok (sch, rest ++ t) :=
  splitScheme_go_append hne s 0 rfl h

theorem splitQuery_of_not_mem {rest : Bytes} (h : 0x3F ∉ rest) :
    splitQuery rest = (false, rest, []) := by
  have hl : rest.getLast? ≠ some 0x3F := fun hl => h (List.mem_of_getLast? hl)
  simp [splitQuery, hl, cutAt_of_not_mem h]

/-- A tail without `?` joins the query when there is one (a lone `?` at the end included), and
the part before the query otherwise. -/
theorem splitQuery_append {rest q : Bytes} (hq : 0x3F ∉ q) (hne : q ≠ []) :
    splitQuery (rest ++ q) =
      if 0x3F ∈ rest then (false, (splitQuery rest).2.1, (splitQuery rest).2.2 ++ q)
      else (false, rest ++ q, []) := by
  have hlast : (rest ++ q).getLast? ≠ some 0x3F := by
    rw [List.getLast?_append_of_ne_nil _ hne]
    intro h
    exact hq (List.mem_of_getLast? h)
  unfold splitQuery
  rw [if_neg (fun h => hlast h.1)]
  split_ifs with hm h1
  · rw [cutAt_append_of_some (cutAt_last h1.1 h1.2)]
  · obtain ⟨a, r, hr⟩ := cutAt_some_of_mem hm
    rw [cutAt_append_of_some hr, hr]
  · rw [cutAt_of_not_mem (by simp [hm, hq])]

/-- A tail that starts with `/` joins the path and leaves the authority as it was. -/
theorem splitAuthority_append {auth q : Bytes} (hq : q.head? = some 0x2F) :
    splitAuthority (auth ++ q) = ((splitAuthority auth).1, (splitAuthority auth).2 ++ q) := by
  unfold splitAuthority
  cases ha : auth.idxOf? 0x2F with
  | none =>
    obtain ⟨r, rfl⟩ : ∃ r, q = 0x2F :: r := by
      cases q with
      | nil => cases hq
      | cons c r => simp at hq; exact ⟨r, by rw [hq]⟩
    simp [idxOf?_append, ha, List.idxOf?_cons]
  | some i =>
    have hi := idxOf?_lt ha
    simp [idxOf?_append, ha, List.take_append_of_le_length hi.le,
      List.drop_append_of_le_length hi.le]

/-! ## Escapes -/

theorem checkEscapes_append {m : UrlPart} {s t : Bytes} (hs : checkEscapes m s = .ok ())
    (ht : checkEscapes m t = .ok ()) : checkEscapes m (s ++ t) = .ok () := by
  fun_induction checkEscapes m s with
  | case1 => simpa using ht
  | case5 h1 h2 r hhex isPct25 v hhost hzone ih =>
    rw [List.cons_append, List.cons_append, List.cons_append, checkEscapes.eq_2]
    simp only [hhex]
    rw [if_neg hhost, if_neg hzone]
    exact ih hs
  | case8 c rest hc hchar ih =>
    rw [List.cons_append, checkEscapes.eq_4 _ _ _ hc, if_neg hchar]
    exact ih hs
  | _ => cases hs

/-- Outside hosts and zones, only a `%` is checked. -/
theorem checkEscapes_of_not_mem {m : UrlPart} (hm : m ≠ .host ∧ m ≠ .zone) {s : Bytes}
    (hs : 0x25 ∉ s) : checkEscapes m s = .ok () := by
  induction s with
  | nil => rfl
  | cons c rest ih =>
    have hc : c ≠ 0x25 := fun h => hs (h ▸ List.mem_cons_self ..)
    rw [checkEscapes.eq_4 _ _ _ hc, if_neg (by simp [hm.1, hm.2])]
    exact ih (fun h => hs (List.mem_cons_of_mem _ h))

theorem checkEscapes_of_unescape {s v : Bytes} {m : UrlPart} (h : unescape s m = .ok v) :
    checkEscapes m s = .ok () := by
  unfold unescape at h
  simp only [bind, Except.bind] at h
  split at h
  · cases h
  · assumption

/-- A fragment that reads can be extended by bytes without escapes. -/
theorem unescape_fragment_append {f q : Bytes} (hf : checkEscapes .fragment f = .ok ())
    (hq : 0x25 ∉ q) : ∃ v, unescape (f ++ q) .fragment = .ok v := by
  refine ⟨decodeEscapes .fragment (f ++ q), ?_⟩
  simp [unescape, bind, Except.bind, checkEscapes_append hf (checkEscapes_of_not_mem (by decide) hq),
    pure, Except.pure]

theorem withPath_fields {u v : Url} {p : Bytes} (h : u.withPath p = .ok v) :
    v.scheme = u.scheme ∧ v.host = u.host := by
  unfold Url.withPath at h
  simp only [bind, Except.bind, pure, Except.pure] at h
  split at h
  · cases h
  · cases h; exact ⟨rfl, rfl⟩

/-- A path that reads can be extended by bytes without escapes, whatever else the URL holds. -/
theorem withPath_append {u v : Url} {p q : Bytes} (h : u.withPath p = .ok v) (hq : 0x25 ∉ q)
    (u' : Url) : ∃ v', u'.withPath (p ++ q) = .ok v' ∧ v'.scheme = u'.scheme ∧ v'.host = u'.host := by
  unfold Url.withPath unescape at h ⊢
  simp only [bind, Except.bind, pure, Except.pure] at h ⊢
  cases hp : checkEscapes .path p with
  | error e => rw [hp] at h; cases h
  | ok _ =>
    rw [checkEscapes_append hp (checkEscapes_of_not_mem (by decide) hq)]
    exact ⟨_, rfl, rfl, rfl⟩

/-! ## Reading a URL with a host -/

/-- How a URL with a host is read: past its scheme and before its query it starts with `//`, and
its authority and path are read from there. -/
theorem parseNoFragment_of_host {raw : Bytes} {u : Url} (h : parseNoFragment raw = .ok u)
    (hh : u.host ≠ []) :
    ∃ sch rest ui, (raw.any fun b => b < 0x20 || b = 0x7F) = false ∧ raw ≠ [0x2A] ∧
      splitScheme raw = .ok (sch, rest) ∧
      (!(lowerBytes sch).isEmpty || !([0x2F, 0x2F, 0x2F] : Bytes).isPrefixOf (splitQuery rest).2.1) = true ∧
      ([0x2F, 0x2F] : Bytes).isPrefixOf (splitQuery rest).2.1 = true ∧
      parseAuthority (splitAuthority ((splitQuery rest).2.1.drop 2)).1 = .ok (ui, u.host) ∧
      ({ scheme := lowerBytes sch, userinfo := ui, host := u.host, forceQuery := (splitQuery rest).1,
         rawQuery := (splitQuery rest).2.2 } : Url).withPath
        (splitAuthority ((splitQuery rest).2.1.drop 2)).2 = .ok u := by
  unfold parseNoFragment at h
  simp only [bind, Except.bind, pure, Except.pure] at h
  split_ifs at h with hc hstar
  · cases h; exact absurd rfl hh
  rcases hsc : splitScheme raw with e | ⟨sch, rest⟩ <;> rw [hsc] at h
  · cases h
  simp only [Bool.not_eq_true] at hc
  dsimp only at h
  have hno : ∀ (w : Url) (p : Bytes), w.host = [] → w.withPath p ≠ .ok u := fun w p hw hp =>
    hh ((withPath_fields hp).2.trans hw)
  -- seven branches: an opaque part, an authority (with or without a leading `/` tested first)
  -- and a path without host (twice each); only an authority gives a host
  split_ifs at h with h1 h2 h3 h4 h5 h6 h7
  · cases h; exact absurd rfl hh
  · split at h
    · cases h
    · rename_i v ha
      have hhost : u.host = v.2 := (withPath_fields h).2
      exact ⟨sch, rest, v.1, hc, hstar, rfl, h4.1, h4.2, hhost ▸ ha, hhost ▸ h⟩
  · exact absurd h (hno _ _ rfl)
  · exact absurd h (hno _ _ rfl)
  · split at h
    · cases h
    · rename_i v ha
      have hhost : u.host = v.2 := (withPath_fields h).2
      exact ⟨sch, rest, v.1, hc, hstar, rfl, h6.1, h6.2, hhost ▸ ha, hhost ▸ h⟩
  · exact absurd h (hno _ _ rfl)
  · exact absurd h (hno _ _ rfl)

/-- Reading a URL whose front has an authority. -/
theorem parseNoFragment_eq_withPath {raw sch rest : Bytes} {ui : Option Userinfo} {host : Bytes}
    (hc : (raw.any fun b => b < 0x20 || b = 0x7F) = false) (hstar : raw ≠ [0x2A])
    (hsc : splitScheme raw = .ok (sch, rest))
    (hcond : (!(lowerBytes sch).isEmpty || !([0x2F, 0x2F, 0x2F] : Bytes).isPrefixOf (splitQuery rest).2.1) = true)
    (hpre : ([0x2F, 0x2F] : Bytes).isPrefixOf (splitQuery rest).2.1 = true)
    (ha : parseAuthority (splitAuthority ((splitQuery rest).2.1.drop 2)).1 = .ok (ui, host)) :
    parseNoFragment raw =
      ({ scheme := lowerBytes sch, userinfo := ui, host := host, forceQuery := (splitQuery rest).1,
         rawQuery := (splitQuery rest).2.2 } : Url).withPath
        (splitAuthority ((splitQuery rest).2.1.drop 2)).2 := by
  have hhead : (splitQuery rest).2.1.head? = some 0x2F := by
    revert hpre
    rcases (splitQuery rest).2.1 with _ | ⟨a, _ | ⟨b, r⟩⟩ <;> simp [List.isPrefixOf]
    intro h _; exact h.symm
  unfold parseNoFragment
  simp only [bind, Except.bind, pure, Except.pure]
  rw [if_neg (by simp [hc]), if_neg hstar, hsc]
  dsimp only
  rw [if_neg (by simp [hhead]), if_pos ⟨hcond, hpre⟩]
  split
  · rename_i e he; rw [ha] at he; cases he
  · rename_i v hv; rw [ha] at hv; cases hv; rfl

/-- A tail that can follow a URL without changing how its front is read: it starts a path and has
no control byte, `#`, `%` or `?`. -/
def PlainTail (q : Bytes) : Prop :=
  q.head? = some 0x2F ∧ ∀ b ∈ q, 0x20 ≤ b ∧ b ≠ 0x7F ∧ b ≠ 0x23 ∧ b ≠ 0x25 ∧ b ≠ 0x3F

instance (q : Bytes) : Decidable (PlainTail q) := inferInstanceAs (Decidable (_ ∧ _))

/-- A plain tail keeps a URL free of control bytes and different from `*`. -/
theorem front_append {raw q : Bytes} (hq : PlainTail q)
    (hc : (raw.any fun b => b < 0x20 || b = 0x7F) = false) :
    ((raw ++ q).any fun b => b < 0x20 || b = 0x7F) = false ∧ raw ++ q ≠ [0x2A] := by
  obtain ⟨hqh, hqb⟩ := hq
  refine ⟨?_, fun he => ?_⟩
  · rw [List.any_append, hc, Bool.false_or, List.any_eq_false]
    intro b hb
    simp only [Bool.or_eq_true, decide_eq_true_eq, not_or]
    exact ⟨UInt8.not_lt.2 (hqb b hb).1, (hqb b hb).2.1⟩
  · rcases List.append_eq_singleton_iff.1 he with ⟨-, rfl⟩ | ⟨-, rfl⟩ <;> cases hqh

/-- Appending a plain tail to a URL without fragment that reads with a scheme and a host keeps
them: the tail joins the query if there is one, and the path otherwise. -/
theorem parseNoFragment_append {raw q : Bytes} {u : Url} (h : parseNoFragment raw = .ok u)
    (hs : u.scheme ≠ []) (hh : u.host ≠ []) (hq : PlainTail q) :
    ∃ u', parseNoFragment (raw ++ q) = .ok u' ∧ u'.scheme = u.scheme ∧ u'.host = u.host := by
  obtain ⟨sch, rest, ui, hc, hstar, hsc, hcond, hpre, ha, hp⟩ := parseNoFragment_of_host h hh
  obtain ⟨hc', hstar'⟩ := front_append hq hc
  have hqne : q ≠ [] := by rintro rfl; cases hq.1
  have hqq : 0x3F ∉ q := fun hm => (hq.2 _ hm).2.2.2.2 rfl
  have hqp : 0x25 ∉ q := fun hm => (hq.2 _ hm).2.2.2.1 rfl
  have hsch : sch ≠ [] := by
    intro h0
    apply hs
    rw [(withPath_fields hp).1]
    simp [h0, lowerBytes]
  have hsc' := splitScheme_append (t := q) hsc hsch
  by_cases hm : 0x3F ∈ rest
  · -- the tail joins the query; the authority and the path stay as they were
    have hsq : splitQuery (rest ++ q) =
        (false, (splitQuery rest).2.1, (splitQuery rest).2.2 ++ q) := by
      rw [splitQuery_append hqq hqne, if_pos hm]
    obtain ⟨u', hu', hs', hh'⟩ := withPath_append (q := []) hp (by simp)
      { scheme := lowerBytes sch, userinfo := ui, host := u.host, forceQuery := false,
        rawQuery := (splitQuery rest).2.2 ++ q }
    refine ⟨u', ?_, hs'.trans (withPath_fields hp).1.symm, hh'⟩
    rw [parseNoFragment_eq_withPath hc' hstar' hsc' (by rw [hsq]; exact hcond)
      (by rw [hsq]; exact hpre) (by rw [hsq]; exact ha), hsq]
    simpa using hu'
  · -- the tail joins the path
    have hsq := splitQuery_of_not_mem hm
    have hsq' : splitQuery (rest ++ q) = (false, rest ++ q, []) := by
      rw [splitQuery_append hqq hqne, if_neg hm]
    rw [hsq] at hcond hpre ha hp
    have hlen : 2 ≤ rest.length := by
      revert hpre
      rcases rest with _ | ⟨a, _ | ⟨b, r⟩⟩ <;> simp [List.isPrefixOf]
    have hdrop : (rest ++ q).drop 2 = rest.drop 2 ++ q := List.drop_append_of_le_length hlen
    have hscheme : (!(lowerBytes sch).isEmpty) = true := by
      simpa [List.isEmpty_iff, lowerBytes] using hsch
    obtain ⟨u', hu', hs', hh'⟩ := withPath_append hp hqp
      { scheme := lowerBytes sch, userinfo := ui, host := u.host, forceQuery := false, rawQuery := [] }
    refine ⟨u', ?_, hs'.trans (withPath_fields hp).1.symm, hh'⟩
    rw [parseNoFragment_eq_withPath hc' hstar' hsc' (by rw [hsq']; simp [hscheme])
      (by rw [hsq']; simpa using (List.isPrefixOf_iff_prefix.1 hpre).trans (List.prefix_append rest q))
      (by rw [hsq', hdrop, splitAuthority_append hq.1]; exact ha), hsq', hdrop,
      splitAuthority_append hq.1]
    exact hu'

theorem encode_append (a b : String) : encode (a ++ b) = encode a ++ encode b := by
  simp [encode, String.toList_append]

theorem flatMap_encodeChar_of_ascii {cs : List Char} (h : ∀ c ∈ cs, c.toNat < 0x80) :
    cs.flatMap encodeChar = cs.map fun c => c.toNat.toUInt8 := by
  induction cs with
  | nil => rfl
  | cons c cs ih =>
    have hc : encodeChar c = [c.toNat.toUInt8] := by simp [encodeChar, h c List.mem_cons_self]
    rw [List.flatMap_cons, hc, ih fun d hd => h d (List.mem_cons_of_mem _ hd)]
    rfl

/-- A text of printable ASCII characters other than `#`, `%` and `?` that starts with a slash
encodes to a plain tail. -/
theorem plainTail_encode {p : String} (hh : p.toList.head? = some '/')
    (hp : ∀ c ∈ p.toList, 0x20 ≤ c.toNat ∧ c.toNat < 0x7F ∧ c.toNat ≠ 0x23 ∧ c.toNat ≠ 0x25 ∧
      c.toNat ≠ 0x3F) :
    PlainTail (encode p) := by
  have henc : encode p = p.toList.map fun c => c.toNat.toUInt8 :=
    flatMap_encodeChar_of_ascii fun c hc => by have := hp c hc; omega
  rw [henc]
  refine ⟨by simp [List.head?_map, hh], ?_⟩
  intro b hb
  obtain ⟨c, hc, rfl⟩ := List.mem_map.1 hb
  obtain ⟨h1, h2, h3, h4, h5⟩ := hp c hc
  have ht : c.toNat.toUInt8.toNat = c.toNat := by simp; omega
  simp only [UInt8.le_iff_toNat_le, ne_eq, ← UInt8.toNat_inj, ht, UInt8.reduceToNat]
  omega

/-- Appending a plain path to a URL that reads with a scheme and a host keeps both: the path
joins the fragment if there is one, else the query if there is one, else the path. -/
theorem Url.parse_append {b p : String} {u : Url} (h : Url.parse b = .ok u) (hs : u.scheme ≠ [])
    (hh : u.host ≠ []) (hq : PlainTail (encode p)) :
    ∃ u', Url.parse (b ++ p) = .ok u' ∧ u'.scheme = u.scheme ∧ u'.host = u.host := by
  have hqne : encode p ≠ [] := by intro he; have := hq.1; rw [he] at this; cases this
  have hqs : 0x23 ∉ encode p := fun hm => (hq.2 _ hm).2.2.1 rfl
  have hqp : 0x25 ∉ encode p := fun hm => (hq.2 _ hm).2.2.2.1 rfl
  unfold Url.parse at h ⊢
  rw [encode_append]
  dsimp only at h ⊢
  cases hcut : cutAt 0x23 (encode b) with
  | mk a frag =>
  cases frag with
  | none =>
    -- no fragment: the path is read with the rest
    rw [hcut] at h
    have ha : a = encode b := by
      unfold cutAt at hcut
      split at hcut <;> simp_all
    subst ha
    rw [cutAt_append_of_none hcut hqs]
    dsimp only at h ⊢
    split at h
    · cases h
    · rename_i url hurl
      cases h
      obtain ⟨u', hu', hs', hh'⟩ := parseNoFragment_append hurl hs hh hq
      exact ⟨u', by rw [hu'], hs', hh'⟩
  | some f =>
    -- a fragment: the path ends it
    rw [hcut] at h
    rw [cutAt_append_of_some hcut]
    dsimp only at h ⊢
    split at h
    · cases h
    · rename_i url hurl
      have hread : url.scheme = u.scheme ∧ url.host = u.host ∧ checkEscapes .fragment f = .ok () := by
        cases f with
        | nil => cases h; exact ⟨rfl, rfl, rfl⟩
        | cons c r =>
          dsimp only at h
          split at h
          · cases h
          · rename_i hv; cases h; exact ⟨rfl, rfl, checkEscapes_of_unescape hv⟩
      obtain ⟨v, hv⟩ := unescape_fragment_append hread.2.2 hqp
      obtain ⟨c, r, hcr⟩ : ∃ c r, f ++ encode p = c :: r := List.exists_cons_of_ne_nil (by simp [hqne])
      rw [hcr]
      dsimp only
      rw [← hcr, hv]
      exact ⟨_, rfl, hread.1, hread.2.1⟩

theorem Url.hostname_congr {u v : Url} (h : u.host = v.host) : u.hostname = v.hostname := by
  simp [Url.hostname, h]

end EInvoice.Net

namespace EInvoice.Transport

open EInvoice.Text EInvoice.Net

/-! ## Targets -/

/-- A target is an `http` or `https` URL with a host. -/
theorem parseTarget_eq_ok {target : String} {u : Url} :
    parseTarget target = .ok u ↔ Url.parse target = .ok u ∧
      (decodeLossy u.scheme = "http" ∨ decodeLossy u.scheme = "https") ∧ u.host ≠ [] := by
  unfold parseTarget
  cases hp : Url.parse target with
  | error f => simp [Except.mapError, bind, Except.bind]
  | ok v =>
    simp only [Except.mapError, bind, Except.bind, pure, Except.pure]
    constructor
    · intro h
      split_ifs at h with hsch hh
      cases h
      exact ⟨rfl, by tauto, by simpa using hh⟩
    · rintro ⟨h, hs, hh⟩
      cases h
      rw [if_neg (by tauto), if_neg (by simpa using hh)]

/-- A target followed by a plain path is a target with the same host. -/
theorem parseTarget_append {b p : String} {u : Url} (h : parseTarget b = .ok u)
    (hq : PlainTail (encode p)) : ∃ u', parseTarget (b ++ p) = .ok u' ∧ u'.host = u.host := by
  obtain ⟨hp, hs, hh⟩ := parseTarget_eq_ok.1 h
  have hne : u.scheme ≠ [] := by
    rintro he
    rw [he] at hs
    revert hs
    decide
  obtain ⟨u', hu', hs', hh'⟩ := Url.parse_append hp hne hh hq
  exact ⟨u', parseTarget_eq_ok.2 ⟨hu', hs' ▸ hs, hh' ▸ hh⟩, hh'⟩

/-- A target followed by a plain path is routed by the whole text, in the environment of the
target's host. -/
theorem resolve_append {b p : String} {u : Url} (h : parseTarget b = .ok u)
    (hq : PlainTail (encode p)) :
    resolve (b ++ p) = .ok (lookup (b ++ p) (environmentOf (decodeLossy u.hostname))) := by
  obtain ⟨u', hu', hh'⟩ := parseTarget_append h hq
  simp [resolve, hu', bind, Except.bind, pure, Except.pure, Url.hostname_congr hh']

/-- A host is in the test environment exactly when it is the test host in lower case. -/
theorem environmentOf_eq_test (host : String) :
    environmentOf host = .test ↔ lowerText host = testHost := by
  dsimp only [environmentOf]
  split_ifs with h1 h2 <;> simp [h1]

/-! ## Markers -/

theorem contains_iff {s pat : String} : contains s pat = true ↔ pat.toList <:+: s.toList :=
  String.contains_string_iff

/-- The route of a target is that of the first row of the table whose environment admits it and
whose marker occurs in the target in lower case. -/
theorem lookup_eq_find (target : String) (env : Environment) :
    lookup target env =
      ((routeTable.find? fun r => (r.env = .unknown ∨ r.env = env) ∧
          r.marker.toList <:+: (lowerText target).toList).map RouteRule.route).getD defaultRoute := by
  simp only [lookup, contains_iff]
  split <;> rename_i h <;>
    simp only [h, Option.map_some, Option.map_none, Option.getD_some, Option.getD_none]

theorem lowerText_append (a b : String) : lowerText (a ++ b) = lowerText a ++ lowerText b := by
  simp [lowerText, String.toList_append]

/-- A pattern found in `xs ++ ys` but not in `xs`, no proper end of which starts `ys`, is found in
`ys`. -/
theorem infix_append_right_iff {m xs ys : List Char} (hx : ¬ m <:+: xs)
    (hcross : ∀ k < m.length, 0 < k → ¬ m.drop k <+: ys) : m <:+: xs ++ ys ↔ m <:+: ys := by
  refine ⟨fun h => ?_, fun h => h.trans (List.suffix_append xs ys).isInfix⟩
  rcases List.infix_append_iff_ne_nil.1 h with h | h | ⟨l₁, l₂, h1, h2, rfl, -, hp⟩
  · exact absurd h hx
  · exact h
  · refine absurd ?_ (hcross l₁.length (by simp [List.length_pos_iff.2 h2]) (List.length_pos_iff.2 h1))
    simpa using hp

/-- Before a path that no proper end of a marker starts, a base that mentions no marker changes
no route. -/
theorem lookup_append {base path : String} (env : Environment)
    (hb : ∀ r ∈ routeTable, ¬ r.marker.toList <:+: (lowerText base).toList)
    (hcross : ∀ r ∈ routeTable, ∀ k < r.marker.toList.length, 0 < k →
      ¬ r.marker.toList.drop k <+: (lowerText path).toList) :
    lookup (base ++ path) env = lookup path env := by
  rw [lookup_eq_find, lookup_eq_find]
  refine congrArg (fun o => (Option.map RouteRule.route o).getD defaultRoute)
    (List.find?_congr fun r hr => ?_)
  simp only [lowerText_append, String.toList_append, infix_append_right_iff (hb r hr) (hcross r hr)]

end EInvoice.Transport

namespace EInvoice.Sifen

open EInvoice.Transport EInvoice.Net EInvoice.Text

/-! ## The routes of a client's operations -/

/-- What making a client keeps: its base URL without trailing slashes, which reads as a target,
and the paths with the published ones in place of those left empty. -/
theorem new_eq_ok {s : ClientSettings} {signer : Option Security.Signer} {now : Clock.Time}
    {c : Client} (h : Client.new s signer now = .ok c) :
    c.baseUrl = trimSlashes s.baseUrl ∧ c.paths = s.paths.withDefaults ∧
      ∃ u, parseTarget c.baseUrl = .ok u := by
  unfold Client.new at h
  simp only [bind, Except.bind, pure, Except.pure] at h
  rw [if_neg (by rintro he; rw [if_pos he] at h; cases h)] at h
  split at h
  · cases h
  · rename_i r hr
    cases h
    simp only [Except.mapError] at hr
    split at hr
    · cases hr
    · rename_i r' hr'
      unfold resolve at hr'
      simp only [bind, Except.bind] at hr'
      split at hr'
      · cases hr'
      · rename_i u hu
        exact ⟨rfl, rfl, u, hu⟩

/-- Removing trailing slashes leaves a front part of the text. -/
theorem trimSlashes_shortens (s : String) : (trimSlashes s).toList <+: s.toList := by
  simp only [trimSlashes, String.toList_ofList]
  exact List.reverse_suffix.1 (by simpa using List.dropWhile_suffix (l := s.toList.reverse) _)

/-- Removing trailing slashes brings no marker into a base URL. -/
theorem no_marker_trimSlashes {b : String}
    (hb : ∀ r ∈ routeTable, ¬ r.marker.toList <:+: (lowerText b).toList) :
    ∀ r ∈ routeTable, ¬ r.marker.toList <:+: (lowerText (trimSlashes b)).toList := by
  intro r hr h
  apply hb r hr
  have hpre : (lowerText (trimSlashes b)).toList <+: (lowerText b).toList := by
    simpa [lowerText] using (trimSlashes_shortens b).map lowerForMatch
  exact h.trans hpre.isInfix

/-- The paths a client is made with when its settings name none. -/
def publishedPaths : List String :=
  [defaultPaths.ruc, defaultPaths.document, defaultPaths.lot, defaultPaths.lotQuery,
    defaultPaths.documentQuery]

/-- The published paths are plain, and no proper end of a marker starts them. -/
theorem publishedPaths_plain :
    ∀ p ∈ publishedPaths, PlainTail (encode p) ∧
      ∀ r ∈ routeTable, ∀ k < r.marker.toList.length, 0 < k →
        ¬ r.marker.toList.drop k <+: (lowerText p).toList := by
  have hh : ∀ p ∈ publishedPaths, p.toList.head? = some '/' := by decide +kernel
  -- with `List.all`: deciding the bounded quantifier over a text's characters recurses too deep
  have hc : ∀ p ∈ publishedPaths, p.toList.all (fun c => 0x20 ≤ c.toNat ∧ c.toNat < 0x7F ∧
      c.toNat ≠ 0x23 ∧ c.toNat ≠ 0x25 ∧ c.toNat ≠ 0x3F) := by decide +kernel
  have hx : ∀ p ∈ publishedPaths, ∀ r ∈ routeTable, ∀ k < r.marker.toList.length, 0 < k →
      ¬ r.marker.toList.drop k <+: p.toList.map lowerForMatch := by decide +kernel
  intro p hp
  have hcs := List.all_eq_true.1 (hc p hp)
  exact ⟨plainTail_encode (hh p hp) fun c hc' => of_decide_eq_true (hcs c hc'),
    by simpa [lowerText] using hx p hp⟩

/-- The route of each published path in every environment. -/
theorem lookup_defaultPaths (env : Environment) :
    lookup defaultPaths.ruc env = (if env = .test then rucTestRoute else rucRoute) ∧
    lookup defaultPaths.lot env = lotReceptionRoute ∧
    lookup defaultPaths.lotQuery env = lotQueryRoute ∧
    lookup defaultPaths.document env = defaultRoute ∧
    lookup defaultPaths.documentQuery env = defaultRoute := by
  simp only [lookup_eq_find]
  cases env <;> decide +kernel

/-- A published path under a base URL that mentions no marker is routed as the path alone, in
the environment of the base's host. -/
theorem resolve_url {c : Client} {u : Url} {p : String} (hu : parseTarget c.baseUrl = .ok u)
    (hb : ∀ r ∈ routeTable, ¬ r.marker.toList <:+: (lowerText c.baseUrl).toList)
    (hp : p ∈ publishedPaths) :
    resolve (c.url p) = .ok (lookup p (environmentOf (decodeLossy u.hostname))) := by
  obtain ⟨hplain, hcross⟩ := publishedPaths_plain p hp
  rw [Client.url, resolve_append hu hplain, lookup_append _ hb hcross]

/-- With the published paths and a base URL that mentions no marker in any letter case, each
operation of a client has its own route: the taxpayer lookup its test route exactly when the
base URL's host is the test host in lower case, the lot reception and the lot query theirs, and
the two document services the default route. -/
theorem operation_routes {s : ClientSettings} {signer : Option Security.Signer} {now : Clock.Time}
    {c : Client} (hc : Client.new s signer now = .ok c) (hp : s.paths.withDefaults = defaultPaths)
    (hb : ∀ r ∈ routeTable, ¬ r.marker.toList <:+: (lowerText s.baseUrl).toList) :
    ∃ u, parseTarget c.baseUrl = .ok u ∧
      resolve (c.url c.paths.ruc) =
        .ok (if lowerText (decodeLossy u.hostname) = testHost then rucTestRoute else rucRoute) ∧
      resolve (c.url c.paths.lot) = .ok lotReceptionRoute ∧
      resolve (c.url c.paths.lotQuery) = .ok lotQueryRoute ∧
      resolve (c.url c.paths.document) = .ok defaultRoute ∧
      resolve (c.url c.paths.documentQuery) = .ok defaultRoute := by
  obtain ⟨hbase, hpaths, u, hu⟩ := new_eq_ok hc
  have hb' := hbase ▸ no_marker_trimSlashes hb
  obtain ⟨hruc, hlot, hquery, hdoc, hdocq⟩ :=
    lookup_defaultPaths (environmentOf (decodeLossy u.hostname))
  rw [hpaths, hp]
  refine ⟨u, hu, ?_, ?_, ?_, ?_, ?_⟩
  · rw [resolve_url hu hb' (by simp [publishedPaths]), hruc]
    simp only [environmentOf_eq_test]
  · rw [resolve_url hu hb' (by simp [publishedPaths]), hlot]
  · rw [resolve_url hu hb' (by simp [publishedPaths]), hquery]
  · rw [resolve_url hu hb' (by simp [publishedPaths]), hdoc]
  · rw [resolve_url hu hb' (by simp [publishedPaths]), hdocq]

/-- The test environment's base URL, written in capitals and with a trailing slash: a client made
with it and the published paths sends each operation by its own route. -/
theorem testBase_operation_routes :
    Client.new ⟨"HTTPS://SIFEN-TEST.set.gov.py/", ⟨"", "", "", "", ""⟩, defaultExchange, 0, none⟩ none
        Clock.Time.zero =
      .ok ⟨"HTTPS://SIFEN-TEST.set.gov.py", defaultPaths, none, Clock.Time.zero⟩ ∧
    (Paths.mk "" "" "" "" "").withDefaults = defaultPaths ∧
    (∀ r ∈ routeTable, ¬ r.marker.toList <:+: (lowerText "HTTPS://SIFEN-TEST.set.gov.py/").toList) ∧
    ∃ u, parseTarget "HTTPS://SIFEN-TEST.set.gov.py" = .ok u ∧
      resolve ("HTTPS://SIFEN-TEST.set.gov.py" ++ defaultPaths.ruc) =
        .ok (if lowerText (decodeLossy u.hostname) = testHost then rucTestRoute else rucRoute) ∧
      resolve ("HTTPS://SIFEN-TEST.set.gov.py" ++ defaultPaths.lot) = .ok lotReceptionRoute ∧
      resolve ("HTTPS://SIFEN-TEST.set.gov.py" ++ defaultPaths.lotQuery) = .ok lotQueryRoute ∧
      resolve ("HTTPS://SIFEN-TEST.set.gov.py" ++ defaultPaths.document) = .ok defaultRoute ∧
      resolve ("HTTPS://SIFEN-TEST.set.gov.py" ++ defaultPaths.documentQuery) = .ok defaultRoute := by
  have hc : Client.new ⟨"HTTPS://SIFEN-TEST.set.gov.py/", ⟨"", "", "", "", ""⟩, defaultExchange, 0, none⟩
      none Clock.Time.zero = .ok ⟨"HTTPS://SIFEN-TEST.set.gov.py", defaultPaths, none, Clock.Time.zero⟩ := by
    rfl
  have hp : (Paths.mk "" "" "" "" "").withDefaults = defaultPaths := withDefaults_empty
  have hb : ∀ r ∈ routeTable, ¬ r.marker.toList <:+: (lowerText "HTTPS://SIFEN-TEST.set.gov.py/").toList := by
    decide +kernel
  exact ⟨hc, hp, hb, operation_routes hc hp hb⟩

/-- A base URL whose host mentions the taxpayer lookup's marker sends the reception of a single
document as a taxpayer lookup, not by the default route. -/
theorem markedHost_routes_documents_as_ruc :
    Client.new ⟨"https://consulta-ruc.example", ⟨"", "", "", "", ""⟩, defaultExchange, 0, none⟩ none
        Clock.Time.zero =
      .ok ⟨"https://consulta-ruc.example", defaultPaths, none, Clock.Time.zero⟩ ∧
    resolve ("https://consulta-ruc.example" ++ defaultPaths.document) = .ok rucRoute ∧
    rucRoute ≠ defaultRoute := by
  have hu : parseTarget "https://consulta-ruc.example" =
      .ok { scheme := encode "https", host := encode "consulta-ruc.example" } := rfl
  refine ⟨rfl, ?_, by decide⟩
  rw [resolve_append hu (publishedPaths_plain _ (by simp [publishedPaths])).1, lookup_eq_find]
  congr 1

end EInvoice.Sifen
