import EInvoice.Proofs.Verify
import EInvoice.Proofs.Routing
import EInvoice.Proofs.Utf8
import Mathlib

/-!
# QR links

The query of a QR link is written pair by pair, each key as it is, `=`, and its value escaped as a
query component, the pairs joined with `&`. Escaping leaves only letters, digits and `-_.~` as
they are and writes every other byte as `%` and two hexadecimal digits (a blank as `+`), so no
`&`, `=` or `;` stands in a value. A query read as URLs are read (`readQuery`: cut at every `&`,
each piece cut at its first `=`, keys and values unescaped) therefore gives back the pairs it was
written from, in order, whatever text their values hold (`readQuery_intercalate`), and a `&`
followed by `=` in it only ever starts a pair (`mem_keys_of_infix`).

The pairs of a QR link (`qrPairs`) have keys of letters alone, all different, and `cHashQR` is not
one of them: the hash the link ends with, over the query and the CSC, cannot be confused with a
pair of the query. Adding the link to a signed root replaces the first `gCamFuFD` child, so a root
with at most one ends with exactly one. Main statement: `qr_link_encoding`.
-/

namespace EInvoice.Net

open EInvoice.Text

/-! ## Reading a query -/

/-- Why a query cannot be read: a piece holds `;`, or an escape is not `%` and two hexadecimal
digits. -/
inductive QueryFault where
  | semicolon
  | escape (e : UrlError)
  deriving Repr

/-- One piece of a query: cut at its first `=` into a key and a value (empty when there is no `=`),
each unescaped as a query component. A piece that holds `;` is refused. -/
def readQueryPiece (piece : Bytes) : Except QueryFault (Bytes × Bytes) :=
  if 0x3B ∈ piece then .error .semicolon
  else
    match unescape (cutAt 0x3D piece).1 .queryComponent,
        unescape ((cutAt 0x3D piece).2.getD []) .queryComponent with
    | .ok k, .ok v => .ok (k, v)
    | .error e, _ => .error (.escape e)
    | _, .error e => .error (.escape e)

/-- The pairs of a query, in order, as a URL query is read: the text is cut at every `&`, empty
pieces are skipped and every other piece is read by `readQueryPiece`. Reading fails when a piece
does. -/
def readQuery (q : Bytes) : Except QueryFault (List (Bytes × Bytes)) :=
  ((q.splitOn 0x26).filter (· ≠ [])).mapM readQueryPiece

/-! ## One query component -/

theorem escape_cons (c : UInt8) (s : Bytes) (m : UrlPart) :
    escape (c :: s) m =
      (if c = 0x20 ∧ m = .queryComponent then [0x2B]
       else if shouldEscape c m then [0x25, hexByte (c.toNat / 16), hexByte (c.toNat % 16)]
       else [c]) ++ escape s m := by
  simp [escape, List.flatMap_cons]

/-- A byte a query component keeps as it is: a letter, a digit or one of `-_.~`, never a blank or
a byte that separates or escapes. -/
theorem kept_of_not_shouldEscape :
    ∀ c : UInt8, shouldEscape c .queryComponent = false →
      c < 0x80 ∧ c ≠ 0x20 ∧ c ≠ 0x25 ∧ c ≠ 0x2B ∧ c ≠ 0x26 ∧ c ≠ 0x3D ∧ c ≠ 0x3B := by
  decide +kernel

/-- The digits of an escape are ASCII hexadecimal digits that read back as their value. -/
theorem hexByte_facts :
    ∀ v : Fin 16, isHexByte (hexByte v) = true ∧ unhex (hexByte v) = v ∧ hexByte v < 0x80 ∧
      hexByte v ≠ 0x26 ∧ hexByte v ≠ 0x3D ∧ hexByte v ≠ 0x3B := by
  decide

theorem hexByte_facts_of_lt {v : Nat} (h : v < 16) :
    isHexByte (hexByte v) = true ∧ unhex (hexByte v) = v ∧ hexByte v < 0x80 ∧
      hexByte v ≠ 0x26 ∧ hexByte v ≠ 0x3D ∧ hexByte v ≠ 0x3B :=
  hexByte_facts ⟨v, h⟩

/-- The check of escapes passes over an escaped component. -/
theorem checkEscapes_escape (s rest : Bytes) :
    checkEscapes .queryComponent (escape s .queryComponent ++ rest) =
      checkEscapes .queryComponent rest := by
  induction s with
  | nil => rfl
  | cons c s ih =>
    have h256 : c.toNat < 256 := c.toNat_lt
    rw [escape_cons, List.append_assoc]
    split_ifs with hsp hesc
    · simp [checkEscapes, ih]
    · obtain ⟨h1, -⟩ := hexByte_facts_of_lt (show c.toNat / 16 < 16 by omega)
      obtain ⟨h2, -⟩ := hexByte_facts_of_lt (show c.toNat % 16 < 16 by omega)
      simp [checkEscapes, h1, h2, ih]
    · obtain ⟨-, -, h25, -⟩ := kept_of_not_shouldEscape c (by simpa using hesc)
      simp [checkEscapes, ih]

/-- Decoding an escaped component gives its bytes back. -/
theorem decodeEscapes_escape (s rest : Bytes) :
    decodeEscapes .queryComponent (escape s .queryComponent ++ rest) =
      s ++ decodeEscapes .queryComponent rest := by
  induction s with
  | nil => rfl
  | cons c s ih =>
    have h256 : c.toNat < 256 := c.toNat_lt
    rw [escape_cons, List.append_assoc]
    split_ifs with hsp hesc
    · simp [decodeEscapes, hsp.1, ih]
    · obtain ⟨-, u1, -⟩ := hexByte_facts_of_lt (show c.toNat / 16 < 16 by omega)
      obtain ⟨-, u2, -⟩ := hexByte_facts_of_lt (show c.toNat % 16 < 16 by omega)
      have hc : (c.toNat / 16 * 16 + c.toNat % 16).toUInt8 = c := by
        rw [show c.toNat / 16 * 16 + c.toNat % 16 = c.toNat by omega]
        simp
      simp [decodeEscapes, u1, u2, hc, ih]
    · obtain ⟨-, -, h25, h2B, -⟩ := kept_of_not_shouldEscape c (by simpa using hesc)
      simp [decodeEscapes, h25, ih]

/-- An escaped component unescapes to its bytes. -/
theorem unescape_escape (s : Bytes) :
    unescape (escape s .queryComponent) .queryComponent = .ok s := by
  have hc := checkEscapes_escape s []
  have hd := decodeEscapes_escape s []
  rw [List.append_nil] at hc hd
  simp [unescape, hc, hd, checkEscapes, decodeEscapes, bind, Except.bind, pure, Except.pure]

/-- An escaped component is ASCII and holds no `&`, `=` or `;`. -/
theorem escape_plain (s : Bytes) :
    ∀ b ∈ escape s .queryComponent, b < 0x80 ∧ b ≠ 0x26 ∧ b ≠ 0x3D ∧ b ≠ 0x3B := by
  intro b hb
  obtain ⟨c, -, hc⟩ := List.mem_flatMap.1 hb
  have h256 : c.toNat < 256 := c.toNat_lt
  split_ifs at hc with hsp hesc
  · simp at hc; subst hc; decide
  · simp only [List.mem_cons, List.not_mem_nil, or_false] at hc
    obtain ⟨-, -, l1, a1, e1, s1⟩ := hexByte_facts_of_lt (show c.toNat / 16 < 16 by omega)
    obtain ⟨-, -, l2, a2, e2, s2⟩ := hexByte_facts_of_lt (show c.toNat % 16 < 16 by omega)
    rcases hc with rfl | rfl | rfl
    · decide
    · exact ⟨l1, a1, e1, s1⟩
    · exact ⟨l2, a2, e2, s2⟩
  · simp at hc; subst hc
    obtain ⟨h80, -, -, -, h26, h3D, h3B⟩ := kept_of_not_shouldEscape b (by simpa using hesc)
    exact ⟨h80, h26, h3D, h3B⟩

/-! ## ASCII text -/

theorem pieces_go_ascii : ∀ (fuel : Nat) (bs : Bytes), bs.length ≤ fuel → (∀ b ∈ bs, b < 0x80) →
    pieces.go fuel bs = bs.map fun b => .char (Char.ofNat b.toNat)
  | 0, bs, hl, _ => by simp at hl; simp [hl, pieces.go]
  | _ + 1, [], _, _ => by simp [pieces.go]
  | fuel + 1, b :: bs, hl, h => by
    have hd : decode? (b :: bs) = some (Char.ofNat b.toNat, bs) := by
      simp [decode?, h b List.mem_cons_self]
    rw [pieces.go, hd]
    simp only [List.map_cons]
    rw [pieces_go_ascii fuel bs (by simp at hl; omega) fun c hc => h c (List.mem_cons_of_mem b hc)]

theorem isValid_of_ascii {bs : Bytes} (h : ∀ b ∈ bs, b < 0x80) : isValid bs = true := by
  simp [isValid, pieces, pieces_go_ascii bs.length bs le_rfl h]

/-- An escaped text is its escaped bytes, character for character. -/
theorem encode_queryEscape (s : String) :
    encode (queryEscape s) = escape (encode s) .queryComponent :=
  encode_decodeLossy (isValid_of_ascii fun b hb => (escape_plain _ b hb).1)

/-- Texts joined with `&` are written as their bytes joined with `&`. -/
theorem encode_intercalate_amp (ss : List String) :
    encode ("&".intercalate ss) = [0x26].intercalate (ss.map encode) := by
  induction ss with
  | nil => rfl
  | cons s ss ih =>
    cases ss with
    | nil => simp
    | cons t ss =>
      rw [String.intercalate_cons_cons, encode_append, encode_append, ih]
      simp only [List.map_cons, List.intercalate_cons_cons]
      rfl

theorem encode_infix {a b : String} (h : a.toList <:+: b.toList) : encode a <:+: encode b := by
  obtain ⟨s, t, h⟩ := h
  exact ⟨s.flatMap encodeChar, t.flatMap encodeChar,
    by simp only [encode, ← h, List.flatMap_append]⟩

/-! ## A query of pairs -/

/-- A key written as it is into a query: it holds no `&`, `=` or `;`, and unescaping leaves it as
it is. -/
structure PlainKey (k : Bytes) : Prop where
  amp : 0x26 ∉ k
  eq : 0x3D ∉ k
  semicolon : 0x3B ∉ k
  unescaped : unescape k .queryComponent = .ok k

/-- A key of letters and digits is written as it is. -/
theorem plainKey_of_alnum {k : Bytes} (h : ∀ b ∈ k, isAlnumByte b = true) : PlainKey k := by
  have hbyte : ∀ b, isAlnumByte b = true →
      b ≠ 0x26 ∧ b ≠ 0x3D ∧ b ≠ 0x3B ∧ b ≠ 0x25 ∧ b ≠ 0x2B := by
    decide +kernel
  have hcheck : ∀ k : Bytes, (∀ b ∈ k, isAlnumByte b = true) →
      checkEscapes .queryComponent k = .ok () ∧ decodeEscapes .queryComponent k = k := by
    intro k hk
    induction k with
    | nil => exact ⟨rfl, rfl⟩
    | cons b k ih =>
      obtain ⟨-, -, -, h25, h2B⟩ := hbyte b (hk b List.mem_cons_self)
      obtain ⟨ih1, ih2⟩ := ih fun c hc => hk c (List.mem_cons_of_mem b hc)
      refine ⟨?_, ?_⟩
      · rw [checkEscapes.eq_4 _ _ _ h25]
        simpa using ih1
      · rw [decodeEscapes.eq_3 _ _ _ (fun _ _ _ h => absurd h h25) h2B, ih2]
  obtain ⟨hc, hd⟩ := hcheck k h
  refine ⟨fun hm => (hbyte _ (h _ hm)).1 rfl, fun hm => (hbyte _ (h _ hm)).2.1 rfl,
    fun hm => (hbyte _ (h _ hm)).2.2.1 rfl, ?_⟩
  simp [unescape, hc, hd, bind, Except.bind, pure, Except.pure]

/-- The bytes of one pair of a query: the key as it is, `=`, and the escaped value. -/
def queryPiece (kv : Bytes × Bytes) : Bytes := kv.1 ++ 0x3D :: escape kv.2 .queryComponent

theorem cutAt_queryPiece {kv : Bytes × Bytes} (hk : 0x3D ∉ kv.1) :
    cutAt 0x3D (queryPiece kv) = (kv.1, some (escape kv.2 .queryComponent)) := by
  have hi : (queryPiece kv).idxOf? 0x3D = some kv.1.length := by
    rw [queryPiece, idxOf?_append, List.idxOf?_eq_none_iff.2 hk]
    simp [List.idxOf?_cons]
  rw [cutAt, hi]
  simp [queryPiece]

theorem queryPiece_not_mem {kv : Bytes × Bytes} {b : UInt8} (hk : b ∉ kv.1) (hb : b ≠ 0x3D)
    (he : ∀ c ∈ escape kv.2 .queryComponent, c ≠ b) : b ∉ queryPiece kv := by
  simp only [queryPiece, List.mem_append, List.mem_cons, not_or]
  exact ⟨hk, hb, fun h => he b h rfl⟩

theorem readQueryPiece_queryPiece {kv : Bytes × Bytes} (hk : PlainKey kv.1) :
    readQueryPiece (queryPiece kv) = .ok kv := by
  have hsemi : 0x3B ∉ queryPiece kv :=
    queryPiece_not_mem hk.semicolon (by decide) fun c hc => (escape_plain _ c hc).2.2.2
  simp only [readQueryPiece, if_neg hsemi, cutAt_queryPiece hk.eq, Option.getD_some,
    hk.unescaped, unescape_escape]

/-- A query written from pairs with plain keys reads back as those pairs, in order. -/
theorem readQuery_intercalate {pairs : List (Bytes × Bytes)} (hne : pairs ≠ [])
    (hk : ∀ kv ∈ pairs, PlainKey kv.1) :
    readQuery ([0x26].intercalate (pairs.map queryPiece)) = .ok pairs := by
  have hamp : ∀ l ∈ pairs.map queryPiece, 0x26 ∉ l := by
    intro l hl
    obtain ⟨kv, hkv, rfl⟩ := List.mem_map.1 hl
    exact queryPiece_not_mem (hk kv hkv).amp (by decide) fun c hc => (escape_plain _ c hc).2.1
  have hfilter : (pairs.map queryPiece).filter (· ≠ []) = pairs.map queryPiece :=
    List.filter_eq_self.2 fun l hl => by
      obtain ⟨kv, -, rfl⟩ := List.mem_map.1 hl
      simp [queryPiece]
  rw [readQuery, List.splitOn_intercalate _ hamp (by simpa using hne), hfilter]
  -- every piece reads as its own pair
  clear hamp hfilter hne
  induction pairs with
  | nil => rfl
  | cons kv rest ih =>
    simp only [List.map_cons, List.mapM_cons, readQueryPiece_queryPiece (hk kv List.mem_cons_self),
      ih fun kv' h => hk kv' (List.mem_cons_of_mem kv h)]
    rfl

theorem intercalate_cons_eq_append (sep : UInt8) (a : Bytes) (l : List Bytes) :
    ∃ t, [sep].intercalate (a :: l) = a ++ t := by
  cases l with
  | nil => exact ⟨[], by simp⟩
  | cons b l => exact ⟨_, by rw [List.intercalate_cons_cons, List.append_assoc]⟩

/-- A key and `=` find their pair: the bytes before the first `=` of a piece are its key. -/
theorem key_eq_of_leading {k k' t : Bytes} (hk : 0x3D ∉ k) (hk' : 0x3D ∉ k')
    (h : k' ++ [0x3D] <+: k ++ 0x3D :: t) : k' = k := by
  induction k' generalizing k with
  | nil =>
    cases k with
    | nil => rfl
    | cons a k => simp at h; exact absurd (List.mem_cons_self) (h ▸ hk)
  | cons a k' ih =>
    cases k with
    | nil => simp at h; exact absurd (List.mem_cons_self) (h.1 ▸ hk')
    | cons b k =>
      simp only [List.cons_append, List.cons_prefix_cons] at h
      rw [h.1, ih (fun m => hk (List.mem_cons_of_mem b m))
        (fun m => hk' (List.mem_cons_of_mem a m)) h.2]

/-- In a query written from pairs with plain keys, what stands after a `&` and before the next
`=` is the key of a pair. -/
theorem mem_keys_of_infix {pairs : List (Bytes × Bytes)} (hk : ∀ kv ∈ pairs, PlainKey kv.1)
    {k' : Bytes} (hk' : 0x3D ∉ k')
    (h : 0x26 :: (k' ++ [0x3D]) <:+: [0x26].intercalate (pairs.map queryPiece)) :
    k' ∈ pairs.map Prod.fst := by
  have hamp : ∀ kv ∈ pairs, 0x26 ∉ queryPiece kv := fun kv hkv =>
    queryPiece_not_mem (hk kv hkv).amp (by decide) fun c hc => (escape_plain _ c hc).2.1
  induction pairs with
  | nil => simp at h
  | cons kv rest ih =>
    cases rest with
    | nil => exact absurd (h.subset List.mem_cons_self) (by simpa using hamp kv (by simp))
    | cons kv2 rest =>
      have ih' := fun h => ih (fun x hx => hk x (List.mem_cons_of_mem kv hx)) h
        (fun x hx => hamp x (List.mem_cons_of_mem kv hx))
      simp only [List.map_cons, List.intercalate_cons_cons, List.append_assoc,
        List.singleton_append] at h ih' ⊢
      rcases List.infix_append_iff_ne_nil.1 h with h | h | ⟨l₁, l₂, h1, -, he, hs, -⟩
      · exact absurd (h.subset List.mem_cons_self) (hamp kv List.mem_cons_self)
      · rcases List.infix_cons_iff.1 h with h | h
        · -- the `&` is the one before the second pair: its key follows
          obtain ⟨t, ht⟩ := intercalate_cons_eq_append 0x26 (queryPiece kv2) (rest.map queryPiece)
          have hp := (List.cons_prefix_cons.1 h).2
          rw [ht, queryPiece, List.append_assoc, List.cons_append] at hp
          exact List.mem_cons_of_mem _
            (key_eq_of_leading (hk kv2 (by simp)).eq hk' hp ▸ List.mem_cons_self)
        · exact List.mem_cons_of_mem _ (ih' h)
      · -- a `&` inside the first piece
        obtain ⟨x, l₁, rfl⟩ := List.exists_cons_of_ne_nil h1
        have hx : x = 0x26 := (List.cons.inj he).1.symm
        exact absurd (hs.subset (hx ▸ List.mem_cons_self)) (hamp kv List.mem_cons_self)

end EInvoice.Net

namespace EInvoice.Assembly

open EInvoice.Xml EInvoice.Text EInvoice.Net EInvoice.Security EInvoice.Crypto

/-! ## The pairs of a QR link -/

/-- What the query of a QR link carries, in order: the schema version `150`, the DE's `Id`, the
issue date in hexadecimal, the receiver's RUC when it has one (else its identity number, `0` when
it has none), the grand total and the VAT total in their shortest decimal form, the number of
items of the type-specific group, the digest value in hexadecimal, and the CSC's identifier. -/
def qrPairs (q : QrSettings) (de : Element) (digest : String) : List (String × String) :=
  [("nVersion", "150"), ("Id", de.attrValue "Id" ""),
    ("dFeEmiDE", hexLower (encode (findText de "dFeEmiDE"))),
    (if !(findText de "dRucRec").isEmpty then ("dRucRec", findText de "dRucRec")
     else ("dNumIDRec",
       if (findText de "dNumIDRec").isEmpty then "0" else findText de "dNumIDRec")),
    ("dTotGralOpe", amountText (findText de "dTotGralOpe")),
    ("dTotIVA", amountText (findText de "dTotIVA")),
    ("cItems", toString (((de.selectElement "gDtipDE").map
      fun d => (d.selectElements "gCamItem").length).getD 0)),
    ("DigestValue", hexLower (encode digest)), ("IdCSC", q.cscId)]

/-- The keys a QR link's query can carry. -/
def qrKeys : List String :=
  ["nVersion", "Id", "dFeEmiDE", "dRucRec", "dNumIDRec", "dTotGralOpe", "dTotIVA", "cItems",
    "DigestValue", "IdCSC"]

/-- The address a QR link starts with: the configured one, or the test one when none is
configured, ending in `?`. -/
def qrLinkBase (b : String) : String :=
  let b := if b.isEmpty then qrBaseTest else b
  if b.endsWith "?" then b else b ++ "?"

theorem qrQuery_eq (q : QrSettings) (de : Element) (digest : String) :
    qrQuery q de digest =
      "&".intercalate ((qrPairs q de digest).map fun kv => kv.1 ++ "=" ++ queryEscape kv.2) := by
  unfold qrQuery qrPairs
  cases de.selectElement "gDtipDE" <;> rfl

theorem qrPairs_keys (q : QrSettings) (de : Element) (digest : String) :
    ∀ kv ∈ qrPairs q de digest, kv.1 ∈ qrKeys := by
  intro kv hkv
  simp only [qrPairs, List.mem_cons, List.not_mem_nil, or_false] at hkv
  rcases hkv with rfl | rfl | rfl | rfl | rfl | rfl | rfl | rfl | rfl
  all_goals first | (split <;> simp [qrKeys]) | simp [qrKeys]

theorem qrKeys_alnum : ∀ k ∈ qrKeys, ∀ b ∈ encode k, isAlnumByte b = true := by
  have h : qrKeys.all (fun k => (encode k).all isAlnumByte) = true := by decide +kernel
  intro k hk b hb
  exact List.all_eq_true.1 (List.all_eq_true.1 h k hk) b hb

theorem qrPairs_plainKeys (q : QrSettings) (de : Element) (digest : String) :
    ∀ kv ∈ (qrPairs q de digest).map (fun kv => (encode kv.1, encode kv.2)), PlainKey kv.1 := by
  intro kv hkv
  obtain ⟨p, hp, rfl⟩ := List.mem_map.1 hkv
  exact plainKey_of_alnum (qrKeys_alnum _ (qrPairs_keys q de digest p hp))

/-- The query of a QR link, written as bytes: each pair's key as it is, `=`, and its escaped
value, joined with `&`. -/
theorem encode_qrQuery (q : QrSettings) (de : Element) (digest : String) :
    encode (qrQuery q de digest) = [0x26].intercalate
      (((qrPairs q de digest).map fun kv => (encode kv.1, encode kv.2)).map queryPiece) := by
  rw [qrQuery_eq, encode_intercalate_amp, List.map_map, List.map_map]
  refine congrArg _ (List.map_congr_left fun kv _ => ?_)
  have he : encode "=" = [0x3D] := rfl
  simp only [Function.comp_apply, queryPiece, encode_append, encode_queryEscape, he,
    List.append_assoc, List.singleton_append]

/-- The query of a QR link reads back as its pairs. -/
theorem readQuery_qrQuery (q : QrSettings) (de : Element) (digest : String) :
    readQuery (encode (qrQuery q de digest)) =
      .ok ((qrPairs q de digest).map fun kv => (encode kv.1, encode kv.2)) := by
  rw [encode_qrQuery]
  exact readQuery_intercalate (by simp [qrPairs]) (qrPairs_plainKeys q de digest)

/-- No `&cHashQR=` stands in the query of a QR link: it only follows the query. -/
theorem qrQuery_no_hash (q : QrSettings) (de : Element) (digest : String) :
    ¬ "&cHashQR=".toList <:+: (qrQuery q de digest).toList := by
  intro h
  have hb := encode_infix h
  rw [show encode "&cHashQR=" = 0x26 :: (encode "cHashQR" ++ [0x3D]) from rfl, encode_qrQuery] at hb
  have hmem := mem_keys_of_infix (qrPairs_plainKeys q de digest) (by decide) hb
  simp only [List.map_map, List.mem_map, Function.comp_apply] at hmem
  obtain ⟨kv, hkv, he⟩ := hmem
  -- `cHashQR` is none of the keys, and keys are told apart by their bytes
  have hne : ∀ k ∈ qrKeys, encode k ≠ encode "cHashQR" := by decide
  exact hne _ (qrPairs_keys q de digest kv hkv) he

theorem qrPairs_keys_nodup (q : QrSettings) (de : Element) (digest : String) :
    (((qrPairs q de digest).map fun kv => (encode kv.1, encode kv.2)).map Prod.fst).Nodup := by
  simp only [qrPairs, List.map_cons, List.map_nil]
  split <;> dsimp only <;> decide +kernel

/-! ## Adding the link to a root -/

theorem appendQr_of_qrLink {q : QrSettings} {rde : Element} {link : String}
    (h : qrLink q rde = .ok link) :
    appendQr q rde = .ok ((if (rde.selectElement "gCamFuFD").isSome then
      removeFirstChild rde "gCamFuFD" else rde).addChild (qrNode link), link) := by
  simp only [appendQr, h, bind, Except.bind, pure, Except.pure]
  rfl

theorem selectElement_eq_head? (e : Element) (name : String) :
    e.selectElement name = (e.selectElements name).head? := by
  simp [Element.selectElement, Element.selectElements, List.head?_filter]

theorem selectElements_removeFirstChild (tag : String) (hcolon : ':' ∉ tag.toList) (x : Element) :
    (removeFirstChild x tag).selectElements tag = (x.selectElements tag).tail := by
  obtain ⟨sp, t, as, cs⟩ := x
  simp only [removeFirstChild, Element.selectElements, Element.childElements]
  induction cs with
  | nil => rfl
  | cons c cs ih =>
    cases c with
    | elem sp' t' as' cs' =>
      by_cases ht : t' = tag
      · subst ht
        simp [Node.element?, answers_of_colon_free hcolon]
      · have hb : (t' == tag) = false := beq_false_of_ne ht
        simp [hb, Node.element?, answers_of_colon_free hcolon, Ne.symm ht, ih]
    | _ => simpa [List.eraseP_cons, List.filterMap_cons, Node.element?] using ih

theorem selectElements_addChild_qrNode (e : Element) (link : String) :
    ((e.addChild (qrNode link)).selectElements "gCamFuFD").length =
      (e.selectElements "gCamFuFD").length + 1 := by
  simp [Element.selectElements, Element.childElements, Element.addChild, qrNode, Node.element?,
    answers_of_colon_free]

/-- Adding the link to a root with at most one `gCamFuFD` child leaves exactly one, the last
child. -/
theorem appendQr_one_link {q : QrSettings} {rde : Element} {link : String}
    (h : qrLink q rde = .ok link) (hle : (rde.selectElements "gCamFuFD").length ≤ 1) :
    ∃ rde', appendQr q rde = .ok (rde', link) ∧ rde'.children.getLast? = some (qrNode link) ∧
      (rde'.selectElements "gCamFuFD").length = 1 := by
  refine ⟨_, appendQr_of_qrLink h, by simp [Element.addChild], ?_⟩
  rw [selectElements_addChild_qrNode, selectElement_eq_head?]
  cases hs : rde.selectElements "gCamFuFD" with
  | nil => simp [hs]
  | cons x xs =>
    -- the one `gCamFuFD` there was is removed first
    rw [hs] at hle
    simp only [List.head?_cons, Option.isSome_some, if_true]
    rw [selectElements_removeFirstChild "gCamFuFD" (by decide), hs]
    simpa using hle

/-! ## The link of a signed root -/

/-- With a CSC, its identifier, a `DE` and a digest value, the link is the base, the query, and
the hash of the query followed by the CSC. -/
theorem qrLink_eq {q : QrSettings} {rde de : Element} (hcsc : q.csc ≠ "") (hid : q.cscId ≠ "")
    (hde : rde.selectElement "DE" = some de) (hdig : digestValueOf rde ≠ "") :
    qrLink q rde = .ok (qrLinkBase q.baseUrl ++ qrQuery q de (digestValueOf rde) ++ "&cHashQR=" ++
      hexLower (Sha256.hash (encode (qrQuery q de (digestValueOf rde) ++ q.csc)))) := by
  simp [qrLink, hcsc, hid, hde, hdig, qrLinkBase, pure, Except.pure]

/-- The QR link of a signed root, with a CSC and its identifier set: the link base, a query `P`,
and `&cHashQR=` followed by the hexadecimal SHA-256 of `P` and the CSC. No `&cHashQR=` stands in
`P`, and `P` reads back as the pairs of `qrPairs`, each key once. Adding the link to a root with at
most one `gCamFuFD` child leaves exactly one, as its last child. -/
theorem qr_link_encoding {q : QrSettings} {rde de : Element} (hcsc : q.csc ≠ "")
    (hid : q.cscId ≠ "") (hde : rde.selectElement "DE" = some de) (hdig : digestValueOf rde ≠ "") :
    ∃ P link, qrLink q rde = .ok link ∧
      link = qrLinkBase q.baseUrl ++ P ++ "&cHashQR=" ++
        hexLower (Sha256.hash (encode (P ++ q.csc))) ∧
      ¬ "&cHashQR=".toList <:+: P.toList ∧
      readQuery (encode P) =
        .ok ((qrPairs q de (digestValueOf rde)).map fun kv => (encode kv.1, encode kv.2)) ∧
      (((qrPairs q de (digestValueOf rde)).map fun kv => (encode kv.1, encode kv.2)).map
        Prod.fst).Nodup ∧
      ((rde.selectElements "gCamFuFD").length ≤ 1 →
        ∃ rde', appendQr q rde = .ok (rde', link) ∧ rde'.children.getLast? = some (qrNode link) ∧
          (rde'.selectElements "gCamFuFD").length = 1) := by
  have hlink := qrLink_eq hcsc hid hde hdig
  exact ⟨_, _, hlink, rfl, qrQuery_no_hash q de _, readQuery_qrQuery q de _,
    qrPairs_keys_nodup q de _, appendQr_one_link hlink⟩

/-- A settings record with a CSC and its identifier, on the test address. -/
def sampleQrSettings : QrSettings :=
  { cscId := "0001", csc := "ABCD0000000000000000000000000000", baseUrl := "" }

/-- A `DE` with its identifier and issue date. -/
def sampleQrDE : Element :=
  { tag := "DE", attrs := [⟨"", "Id", "01800897528001001000000122024011510000001236"⟩],
    children := [.elem "" "dFeEmiDE" [] [.text "2024-01-15T10:00:00"]] }

/-- A small signed root: the `DE`, then a signature with its digest value. -/
def sampleQrRoot : Element :=
  { tag := "rDE", children := [sampleQrDE.toNode,
      .elem "" "Signature" [] [.elem "" "DigestValue" [] [.text "q+/=="]]] }

theorem sampleQrRoot_link :
    sampleQrSettings.csc ≠ "" ∧ sampleQrSettings.cscId ≠ "" ∧
    sampleQrRoot.selectElement "DE" = some sampleQrDE ∧ digestValueOf sampleQrRoot ≠ "" ∧
    ∃ P link, qrLink sampleQrSettings sampleQrRoot = .ok link ∧
      link = qrLinkBase sampleQrSettings.baseUrl ++ P ++ "&cHashQR=" ++
        hexLower (Sha256.hash (encode (P ++ sampleQrSettings.csc))) ∧
      ¬ "&cHashQR=".toList <:+: P.toList ∧
      readQuery (encode P) = .ok ((qrPairs sampleQrSettings sampleQrDE
        (digestValueOf sampleQrRoot)).map fun kv => (encode kv.1, encode kv.2)) ∧
      (((qrPairs sampleQrSettings sampleQrDE (digestValueOf sampleQrRoot)).map
        fun kv => (encode kv.1, encode kv.2)).map Prod.fst).Nodup ∧
      ((sampleQrRoot.selectElements "gCamFuFD").length ≤ 1 →
        ∃ rde', appendQr sampleQrSettings sampleQrRoot = .ok (rde', link) ∧
          rde'.children.getLast? = some (qrNode link) ∧
          (rde'.selectElements "gCamFuFD").length = 1) := by
  have hcsc : sampleQrSettings.csc ≠ "" := by decide
  have hid : sampleQrSettings.cscId ≠ "" := by decide
  have hde : sampleQrRoot.selectElement "DE" = some sampleQrDE := rfl
  have hdig : digestValueOf sampleQrRoot ≠ "" := by decide +kernel
  exact ⟨hcsc, hid, hde, hdig, qr_link_encoding hcsc hid hde hdig⟩

/-- Its query: the issue date and the digest value `q+/==` travel in hexadecimal, so nothing in
them is escaped, and the receiver, absent, is `dNumIDRec=0`. -/
example : qrQuery sampleQrSettings sampleQrDE (digestValueOf sampleQrRoot) =
    "nVersion=150&Id=01800897528001001000000122024011510000001236" ++
    "&dFeEmiDE=323032342d30312d31355431303a30303a3030&dNumIDRec=0&dTotGralOpe=0&dTotIVA=0" ++
    "&cItems=0&DigestValue=712b2f3d3d&IdCSC=0001" := by
  decide +kernel

end EInvoice.Assembly
