import EInvoice.Invoice.Fields
import EInvoice.Proofs.Calendar

/-!
# The layout of document identifiers

A document identifier (CDC) is written from ten fields of the document, each with a fixed
number of decimal digits, followed by the check digit of those 43 digits:

`type (2) · RUC padded with zeros (8) · DV (1) · establishment (3) · point of sale (3) ·
number (7) · taxpayer type (1) · issue date yyyymmdd (8) · emission type (1) ·
security code (9) · check digit (1)`.

The widths are exact because validation keeps every field in range: the RUC has one to eight
digits, its DV is a check digit and so a single digit, the year has four digits, and the
month and day of a calendar date have two each. From this the identifier determines the ten
fields: two documents share an identifier exactly when they agree on them
(`identifier_layout_injective`).

The check digit works on bytes. A text is a valid identifier exactly when it is 44 bytes of
decimal digits and the last is the check digit of the other 43.
-/

namespace EInvoice.Invoice

open EInvoice.Text EInvoice.Clock

/-! ## The check digit of a byte string -/

theorem isDigitByte_iff (b : UInt8) : isDigitByte b = true ↔ 48 ≤ b.toNat ∧ b.toNat ≤ 57 := by
  simp [isDigitByte, UInt8.le_iff_toNat_le]

/-- The value of a digit byte. -/
theorem digitByte_sub {b : UInt8} (hb : isDigitByte b = true) : (b - 48).toNat = b.toNat - 48 :=
  UInt8.toNat_sub_of_le _ _ (by simpa [UInt8.le_iff_toNat_le] using ((isDigitByte_iff b).1 hb).1)

theorem digitsFromRight_of_digits {bs : List UInt8} (h : ∀ b ∈ bs, isDigitByte b = true) :
    digitsFromRight bs = .ok (bs.map fun b => b.toNat - 48) := by
  induction bs with
  | nil => rfl
  | cons b bs ih =>
    have hb := h b List.mem_cons_self
    rw [digitsFromRight, if_pos hb, ih fun x hx => h x (List.mem_cons_of_mem _ hx)]
    simp [Except.map, digitByte_sub hb]

theorem digits_of_digitsFromRight_eq_ok {bs : List UInt8} {ds : List Nat}
    (h : digitsFromRight bs = .ok ds) : ∀ b ∈ bs, isDigitByte b = true := by
  induction bs generalizing ds with
  | nil => simp
  | cons b bs ih =>
    rw [digitsFromRight] at h
    split at h
    · rename_i hb
      cases hrest : digitsFromRight bs with
      | error e => rw [hrest] at h; cases h
      | ok ds' =>
        intro x hx
        rcases List.mem_cons.1 hx with rfl | hx
        · exact hb
        · exact ih hrest x hx
    · cases h

/-- The check digit of a byte string, when there is one: the string is not empty, every byte
is a decimal digit, and the digit is the modulo-11 digit of their weighted sum. -/
theorem checkDigitBytes_eq_ok {number : String} {bs : List UInt8} {d : Nat} :
    checkDigitBytes number bs = .ok d ↔
      bs ≠ [] ∧ (∀ b ∈ bs, isDigitByte b = true) ∧
        d = digitOfSum (weightedSum 0 (bs.reverse.map fun b => b.toNat - 48)) := by
  unfold checkDigitBytes
  constructor
  · intro h
    split at h
    · cases h
    · rename_i hne
      split at h
      · cases h
      · rename_i ds hds
        have hall := digits_of_digitsFromRight_eq_ok hds
        refine ⟨by simpa using hne, fun b hb => hall b (List.mem_reverse.2 hb), ?_⟩
        rw [digitsFromRight_of_digits hall] at hds
        cases hds
        cases h
        rfl
  · rintro ⟨hne, hall, rfl⟩
    have hall' : ∀ b ∈ bs.reverse, isDigitByte b = true := fun b hb => hall b (List.mem_reverse.1 hb)
    simp [hne, digitsFromRight_of_digits hall']

/-- The text a failure is reported with does not change a check digit. -/
theorem checkDigitBytes_congr (n m : String) (bs : List UInt8) (d : Nat) :
    checkDigitBytes n bs = .ok d ↔ checkDigitBytes m bs = .ok d := by
  rw [checkDigitBytes_eq_ok, checkDigitBytes_eq_ok]

/-! ## Texts of decimal digits -/

theorem isDigitByte_toUInt8 {c : Char} (h : isDigit c = true) :
    isDigitByte c.toNat.toUInt8 = true := by
  have := (isDigit_iff c).1 h
  rw [isDigitByte_iff]
  simp only [Nat.toUInt8, UInt8.toNat_ofNat']
  omega

/-- A character whose UTF-8 bytes are all decimal digits is a decimal digit. -/
theorem isDigit_of_utf8EncodeChar {c : Char}
    (h : ∀ b ∈ String.utf8EncodeChar c, isDigitByte b = true) : isDigit c = true := by
  rw [isDigit_iff]
  simp only [Char.toNat]
  simp only [String.utf8EncodeChar] at h
  split_ifs at h with h1 h2 h3
  all_goals
    have := (isDigitByte_iff _).1 (h _ List.mem_cons_self)
    simp only [UInt8.toNat_ofNat'] at this
    omega

/-- A text whose bytes are all decimal digits is made of decimal digits. -/
theorem digits_of_toUTF8 {s : String} (h : ∀ b ∈ s.toUTF8.toList, isDigitByte b = true) :
    ∀ c ∈ s.toList, isDigit c = true := by
  intro c hc
  apply isDigit_of_utf8EncodeChar
  intro b hb
  exact h b (by rw [toUTF8_toList]; exact List.mem_flatMap.2 ⟨c, hc, hb⟩)

/-- The check digit of a text of decimal digits, read on its characters. -/
theorem checkDigit_of_digits {cs : List Char} (hne : cs ≠ []) (h : ∀ c ∈ cs, isDigit c = true) :
    checkDigit (String.ofList cs) = .ok (digitOfSum (weightedSum 0 (cs.reverse.map digitValue))) := by
  have hs : ∀ c ∈ (String.ofList cs).toList, isDigit c = true := by simpa using h
  rw [checkDigit, toUTF8_toList_of_digits hs, checkDigitBytes_eq_ok, String.toList_ofList]
  refine ⟨by simpa using hne, fun b hb => ?_, ?_⟩
  · obtain ⟨c, hc, rfl⟩ := List.mem_map.1 hb
    exact isDigitByte_toUInt8 (h c hc)
  · rw [List.map_reverse, List.map_reverse, List.map_map]
    congr 3
    apply List.map_congr_left
    intro c hc
    have := (isDigit_iff c).1 (h c hc)
    simp only [Function.comp, Nat.toUInt8, UInt8.toNat_ofNat', digitValue]
    omega

/-! ## What validation establishes -/

theorem require_eq_ok {ok : Bool} {e : FieldError} {u : Unit} :
    require ok e = .ok u ↔ ok = true := by
  cases ok <;> simp [require]

/-- The fields an identifier is written from, each in the range that validation allows. -/
structure Fields.InRange (f : Fields) : Prop where
  type : isKnownType f.type = true
  rucSize : f.issuerRuc.utf8ByteSize ≠ 0 ∧ f.issuerRuc.utf8ByteSize ≤ 8
  dv : ∃ d, checkDigit f.issuerRuc = .ok d ∧ f.issuerDv = d
  establishment : 1 ≤ f.establishment ∧ f.establishment ≤ 999
  pointOfSale : 1 ≤ f.pointOfSale ∧ f.pointOfSale ≤ 999
  number : 1 ≤ f.number ∧ f.number ≤ 9999999
  taxpayerType : f.taxpayerType = 1 ∨ f.taxpayerType = 2
  issued : f.issuedAt.isZero = false
  year : 2000 ≤ f.issuedAt.year ∧ f.issuedAt.year ≤ 2099
  emissionType : f.emissionType = 1 ∨ f.emissionType = 2
  securityCode : 1 ≤ f.securityCode ∧ f.securityCode ≤ 999999999

/-- Validation accepts exactly the fields that are in range. -/
theorem validate_eq_ok_iff (f : Fields) : f.validate = .ok () ↔ f.InRange := by
  unfold Fields.validate
  simp only [Except.bind_eq_ok, require_eq_ok, Except.mapError_eq_ok, decide_eq_true_eq,
    Bool.not_eq_true', exists_const]
  constructor
  · rintro ⟨ht, hs, d, hd, hdv, he, hp, hn, htt, hz, hy, hem, hsc⟩
    exact ⟨ht, hs, ⟨d, hd, hdv⟩, he, hp, hn, htt, hz, hy, hem, hsc⟩
  · rintro ⟨ht, hs, ⟨d, hd, hdv⟩, he, hp, hn, htt, hz, hy, hem, hsc⟩
    exact ⟨ht, hs, d, hd, hdv, he, hp, hn, htt, hz, hy, hem, hsc⟩

namespace Fields.InRange

variable {f : Fields} (h : f.InRange)
include h

theorem ruc_bytes : ∀ b ∈ f.issuerRuc.toUTF8.toList, isDigitByte b = true := by
  obtain ⟨d, hd, -⟩ := h.dv
  exact (checkDigitBytes_eq_ok.1 hd).2.1

theorem ruc_digits : ∀ c ∈ f.issuerRuc.toList, isDigit c = true :=
  digits_of_toUTF8 h.ruc_bytes

theorem ruc_length : f.issuerRuc.toList.length = f.issuerRuc.utf8ByteSize := by
  rw [← length_toUTF8_toList, toUTF8_toList_of_digits h.ruc_digits, List.length_map]

theorem dv_range : 0 ≤ f.issuerDv ∧ f.issuerDv < 10 := by
  obtain ⟨d, hd, hdv⟩ := h.dv
  have := checkDigit_lt_ten _ _ hd
  omega

theorem type_range : 0 ≤ f.type ∧ f.type < 100 := by
  have := h.type
  simp only [isKnownType, decide_eq_true_eq] at this
  omega

end Fields.InRange

/-! ## Calendar dates -/

theorem toNat_inj_of_nonneg {a b : Int} (ha : 0 ≤ a) (hb : 0 ≤ b) (h : a.toNat = b.toNat) :
    a = b := by
  omega

/-- A calendar date written `yyyymmdd` is read back: a year of four digits and a month and day
of two. -/
theorem dateDigits_inj {d d' : Int × Int × Int}
    (hd : (2000 ≤ d.1 ∧ d.1 ≤ 2099) ∧ (1 ≤ d.2.1 ∧ d.2.1 ≤ 12) ∧ (1 ≤ d.2.2 ∧ d.2.2 ≤ 31))
    (hd' : (2000 ≤ d'.1 ∧ d'.1 ≤ 2099) ∧ (1 ≤ d'.2.1 ∧ d'.2.1 ≤ 12) ∧ (1 ≤ d'.2.2 ∧ d'.2.2 ≤ 31))
    (h : paddedDigits 4 d.1.toNat ++ paddedDigits 2 d.2.1.toNat ++ paddedDigits 2 d.2.2.toNat =
      paddedDigits 4 d'.1.toNat ++ paddedDigits 2 d'.2.1.toNat ++ paddedDigits 2 d'.2.2.toNat) :
    d = d' := by
  obtain ⟨y, m, day⟩ := d
  obtain ⟨y', m', day'⟩ := d'
  simp only at hd hd' h ⊢
  rw [List.append_assoc, List.append_assoc] at h
  obtain ⟨hy, hrest⟩ := List.append_inj h
    (by rw [paddedDigits_length (by omega) (by omega), paddedDigits_length (by omega) (by omega)])
  obtain ⟨hm, hday⟩ := List.append_inj hrest
    (by rw [paddedDigits_length (by omega) (by omega), paddedDigits_length (by omega) (by omega)])
  have := paddedDigits_inj hy
  have := paddedDigits_inj hm
  have := paddedDigits_inj hday
  simp only [Prod.mk.injEq]
  omega

/-! ## The digit groups of an identifier -/

/-- What an identifier is written from: ten fields of a document, the RUC as it stands padded
with zeros and the issue time as its calendar date. -/
structure IdentifierKey where
  type : Int
  paddedRuc : List Char
  dv : Int
  establishment : Int
  pointOfSale : Int
  number : Int
  taxpayerType : Int
  date : Int × Int × Int
  emissionType : Int
  securityCode : Int
  deriving DecidableEq

/-- The key of an identifier in a document's fields. -/
def Fields.identifierKey (f : Fields) : IdentifierKey :=
  ⟨f.type, padLeft 8 '0' f.issuerRuc.toList, f.issuerDv, f.establishment, f.pointOfSale, f.number,
   f.taxpayerType, f.issuedAt.date, f.emissionType, f.securityCode⟩

/-- The digit groups an identifier is written with, before its check digit. -/
def IdentifierKey.groups (k : IdentifierKey) : List (List Char) :=
  [paddedDigits 2 k.type.toNat, k.paddedRuc, paddedDigits 1 k.dv.toNat,
   paddedDigits 3 k.establishment.toNat, paddedDigits 3 k.pointOfSale.toNat,
   paddedDigits 7 k.number.toNat, paddedDigits 1 k.taxpayerType.toNat,
   paddedDigits 4 k.date.1.toNat ++ paddedDigits 2 k.date.2.1.toNat ++ paddedDigits 2 k.date.2.2.toNat,
   paddedDigits 1 k.emissionType.toNat, paddedDigits 9 k.securityCode.toNat]

/-- The widths of the digit groups. -/
def identifierWidths : List Nat := [2, 8, 1, 3, 3, 7, 1, 8, 1, 9]

namespace Fields.InRange

variable {f : Fields} (h : f.InRange)
include h

/-- The 43 digits before the check digit are the digit groups of the key. -/
theorem identifierBase_toList : f.identifierBase.toList = f.identifierKey.groups.flatten := by
  have hy : 0 ≤ f.issuedAt.date.1 := by have := h.year; simp only [Time.year] at this; omega
  have hpad : List.replicate (8 - f.issuerRuc.utf8ByteSize) '0' ++ f.issuerRuc.toList =
      padLeft 8 '0' f.issuerRuc.toList := by
    rw [padLeft, h.ruc_length]
  simp only [Fields.identifierBase, String.toList_append, String.toList_ofList, List.append_assoc]
  rw [padInt_toList 2 h.type_range.1, showInt_toList h.dv_range.1,
    padInt_toList 3 (by have := h.establishment; omega),
    padInt_toList 3 (by have := h.pointOfSale; omega),
    padInt_toList 7 (by have := h.number; omega),
    showInt_toList (by have := h.taxpayerType; omega),
    showInt_toList (by have := h.emissionType; omega),
    padInt_toList 9 (by have := h.securityCode; omega), ← List.append_assoc _ f.issuerRuc.toList, hpad]
  simp [Time.showCompactDate, showYear, two, padNat_toList, not_lt.2 hy, IdentifierKey.groups,
    Fields.identifierKey, Time.year, Time.month, Time.day]

theorem groups_lengths : f.identifierKey.groups.map List.length = identifierWidths := by
  have hm := civilFromDays_month (f.issuedAt.wallSeconds / 86400 - unixEpochDays)
  have hd := civilFromDays_day (f.issuedAt.wallSeconds / 86400 - unixEpochDays)
  have hy := h.year
  simp only [Time.year] at hy
  simp only [IdentifierKey.groups, Fields.identifierKey, List.map_cons, List.map_nil,
    List.length_append, identifierWidths, List.cons.injEq, and_true]
  simp only [Time.date] at hm hd hy ⊢
  refine ⟨paddedDigits_length (by omega) (by have := h.type_range; omega), ?_,
    paddedDigits_length (by omega) (by have := h.dv_range; omega),
    paddedDigits_length (by omega) (by have := h.establishment; omega),
    paddedDigits_length (by omega) (by have := h.pointOfSale; omega),
    paddedDigits_length (by omega) (by have := h.number; omega),
    paddedDigits_length (by omega) (by have := h.taxpayerType; omega), ?_,
    paddedDigits_length (by omega) (by have := h.emissionType; omega),
    paddedDigits_length (by omega) (by have := h.securityCode; omega)⟩
  · rw [padLeft_length, h.ruc_length]
    have := h.rucSize
    omega
  · rw [paddedDigits_length (by omega) (by omega), paddedDigits_length (by omega) (by omega),
      paddedDigits_length (by omega) (by omega)]

theorem groups_digits : ∀ g ∈ f.identifierKey.groups, ∀ c ∈ g, isDigit c = true := by
  intro g hg c hc
  simp only [IdentifierKey.groups, Fields.identifierKey, List.mem_cons, List.not_mem_nil,
    or_false] at hg
  rcases hg with rfl | rfl | rfl | rfl | rfl | rfl | rfl | rfl | rfl | rfl
  all_goals first
    | exact isDigit_of_mem_paddedDigits hc
    | skip
  · rcases List.mem_append.1 hc with hc | hc
    · rw [(List.mem_replicate.1 hc).2]; rfl
    · exact h.ruc_digits c hc
  · simp only [List.mem_append] at hc
    rcases hc with (hc | hc) | hc <;> exact isDigit_of_mem_paddedDigits hc

theorem date_range : (2000 ≤ f.issuedAt.date.1 ∧ f.issuedAt.date.1 ≤ 2099) ∧
    (1 ≤ f.issuedAt.date.2.1 ∧ f.issuedAt.date.2.1 ≤ 12) ∧
    (1 ≤ f.issuedAt.date.2.2 ∧ f.issuedAt.date.2.2 ≤ 31) :=
  ⟨h.year, civilFromDays_month _, civilFromDays_day _⟩

/-- Within their ranges, the digit groups determine the key. -/
theorem groups_inj {g : Fields} (hg : g.InRange)
    (heq : f.identifierKey.groups = g.identifierKey.groups) : f.identifierKey = g.identifierKey := by
  simp only [IdentifierKey.groups, Fields.identifierKey, List.cons.injEq] at heq
  obtain ⟨htype, hruc, hdv, hest, hpos, hnum, htax, hdate, hem, hsec, -⟩ := heq
  have hty := h.type_range; have hty' := hg.type_range
  have hdvr := h.dv_range; have hdvr' := hg.dv_range
  have := h.establishment; have := hg.establishment
  have := h.pointOfSale; have := hg.pointOfSale
  have := h.number; have := hg.number
  have := h.taxpayerType; have := hg.taxpayerType
  have := h.emissionType; have := hg.emissionType
  have := h.securityCode; have := hg.securityCode
  simp only [Fields.identifierKey, IdentifierKey.mk.injEq, hruc, true_and]
  refine ⟨toNat_inj_of_nonneg (by omega) (by omega) (paddedDigits_inj htype),
    toNat_inj_of_nonneg (by omega) (by omega) (paddedDigits_inj hdv),
    toNat_inj_of_nonneg (by omega) (by omega) (paddedDigits_inj hest),
    toNat_inj_of_nonneg (by omega) (by omega) (paddedDigits_inj hpos),
    toNat_inj_of_nonneg (by omega) (by omega) (paddedDigits_inj hnum),
    toNat_inj_of_nonneg (by omega) (by omega) (paddedDigits_inj htax),
    dateDigits_inj h.date_range hg.date_range hdate,
    toNat_inj_of_nonneg (by omega) (by omega) (paddedDigits_inj hem),
    toNat_inj_of_nonneg (by omega) (by omega) (paddedDigits_inj hsec)⟩

end Fields.InRange

/-- Lists cut into pieces of the same lengths are equal when their concatenations are. -/
theorem flatten_inj_of_lengths {α : Type} :
    ∀ {xs ys : List (List α)}, xs.map List.length = ys.map List.length →
      xs.flatten = ys.flatten → xs = ys
  | [], [], _, _ => rfl
  | [], _ :: _, hl, _ => by simp at hl
  | _ :: _, [], hl, _ => by simp at hl
  | x :: xs, y :: ys, hl, hf => by
    simp only [List.map_cons, List.cons.injEq] at hl
    simp only [List.flatten_cons] at hf
    obtain ⟨hxy, hrest⟩ := List.append_inj hf hl.1
    rw [hxy, flatten_inj_of_lengths hl.2 hrest]

theorem identifier_inRange {f : Fields} {c : String} (hf : f.identifier = .ok c) : f.InRange := by
  unfold Fields.identifier at hf
  obtain ⟨u, hv, -⟩ := Except.bind_eq_ok.1 hf
  exact (validate_eq_ok_iff f).1 hv

/-- An identifier is its digit groups followed by the check digit of the digits of the groups. -/
theorem identifier_toList {f : Fields} {c : String} (hf : f.identifier = .ok c) :
    ∃ dv, checkDigit (String.ofList f.identifierKey.groups.flatten) = .ok dv ∧
      c.toList = f.identifierKey.groups.flatten ++ [digitChar dv] := by
  have h := identifier_inRange hf
  obtain ⟨dv, hdv, rfl⟩ := identifier_eq f c hf
  have hbase : f.identifierBase = String.ofList f.identifierKey.groups.flatten := by
    apply String.ext
    rw [h.identifierBase_toList, String.toList_ofList]
  have hlt := checkDigit_lt_ten _ _ hdv
  refine ⟨dv, hbase ▸ hdv, ?_⟩
  rw [String.toList_append, h.identifierBase_toList, showInt_toList (by omega), paddedDigits_one,
    toDigits_eq, if_pos (by omega)]
  simp

/-! ## Valid identifiers -/

theorem digitChar_toUInt8 {d : Nat} (hd : d < 10) : (digitChar d).toNat.toUInt8 = 48 + d.toUInt8 := by
  interval_cases d <;> rfl

theorem isDigitByte_digit {d : Nat} (hd : d < 10) : isDigitByte (48 + d.toUInt8) = true := by
  interval_cases d <;> rfl

theorem eq_digitChar_of_toUInt8 {c : Char} {d : Nat} (hc : isDigit c = true) (hd : d < 10)
    (h : c.toNat.toUInt8 = 48 + d.toUInt8) : c = digitChar d := by
  rw [← digitChar_toUInt8 hd] at h
  have hc' := (isDigit_iff c).1 hc
  have hdc := (isDigit_iff (digitChar d)).1 (isDigit_digitChar d)
  have := congrArg UInt8.toNat h
  simp only [Nat.toUInt8, UInt8.toNat_ofNat'] at this
  exact Char.toNat_inj.1 (by omega)

/-- The check digit of the first characters of a text of digits is that of its first bytes. -/
theorem checkDigit_take_of_digits {s : String} (h : ∀ c ∈ s.toList, isDigit c = true) (n : Nat)
    (d : Nat) :
    checkDigit (String.ofList (s.toList.take n)) = .ok d ↔
      checkDigitBytes s (s.toUTF8.toList.take n) = .ok d := by
  have ht : ∀ c ∈ (String.ofList (s.toList.take n)).toList, isDigit c = true := by
    rw [String.toList_ofList]
    exact fun c hc => h c (List.mem_of_mem_take hc)
  rw [checkDigit, toUTF8_toList_of_digits ht, toUTF8_toList_of_digits h, String.toList_ofList,
    ← List.map_take, checkDigitBytes_congr]

/-- A text is a valid identifier exactly when it is 44 bytes of decimal digits whose last is the
check digit of the other 43. -/
theorem isValidIdentifier_iff_digits (s : String) :
    isValidIdentifier s = true ↔ s.utf8ByteSize = 44 ∧ (∀ c ∈ s.toList, isDigit c = true) ∧
      ∃ dv, checkDigit (String.ofList (s.toList.take 43)) = .ok dv ∧
        s.toList.getLast? = some (digitChar dv) := by
  rw [isValidIdentifier_iff, length_toUTF8_toList]
  simp only [identifierLength, Nat.reduceSub]
  constructor
  · rintro ⟨hlen, dv, hdv, hlast⟩
    obtain ⟨-, hfirst, hval⟩ := checkDigitBytes_eq_ok.1 hdv
    have hlt : dv < 10 := hval ▸ digitOfSum_lt_ten _
    have hlen' : s.toUTF8.toList.length = 44 := by rw [length_toUTF8_toList, hlen]
    -- every byte is a digit: the first 43 by the check digit, the last by its value
    have hbytes : ∀ b ∈ s.toUTF8.toList, isDigitByte b = true := by
      intro b hb
      obtain ⟨i, hi, rfl⟩ := List.getElem_of_mem hb
      by_cases h43 : i < 43
      · exact hfirst _ (List.mem_iff_getElem.2 ⟨i, by rw [List.length_take]; omega, by simp⟩)
      · have hget : s.toUTF8.toList.getLast? = some s.toUTF8.toList[i] := by
          rw [List.getLast?_eq_getElem?, hlen']
          simp [show i = 43 by omega]
        rw [hlast] at hget
        rw [← Option.some.inj hget]
        exact isDigitByte_digit hlt
    have hdigits := digits_of_toUTF8 hbytes
    refine ⟨hlen, hdigits, dv, (checkDigit_take_of_digits hdigits 43 dv).2 hdv, ?_⟩
    rw [toUTF8_toList_of_digits hdigits, List.getLast?_map] at hlast
    obtain ⟨c, hc, hcd⟩ := Option.map_eq_some_iff.1 hlast
    rw [hc, eq_digitChar_of_toUInt8 (hdigits c (List.mem_of_getLast? hc)) hlt hcd]
  · rintro ⟨hlen, hdigits, dv, hdv, hlast⟩
    have hlt : dv < 10 := checkDigit_lt_ten _ _ hdv
    refine ⟨hlen, dv, (checkDigit_take_of_digits hdigits 43 dv).1 hdv, ?_⟩
    rw [toUTF8_toList_of_digits hdigits, List.getLast?_map, hlast]
    simp [digitChar_toUInt8 hlt]

/-! ## Derived identifiers -/

theorem identifierWidths_sum : identifierWidths.sum = 43 := rfl

section Derived

variable {f : Fields} {c : String}

theorem identifier_groups_length (h : f.InRange) : f.identifierKey.groups.flatten.length = 43 := by
  rw [List.length_flatten, h.groups_lengths, identifierWidths_sum]

theorem identifier_digits (hf : f.identifier = .ok c) : ∀ ch ∈ c.toList, isDigit ch = true := by
  have h := identifier_inRange hf
  obtain ⟨dv, -, hc⟩ := identifier_toList hf
  intro ch hch
  rw [hc, List.mem_append, List.mem_singleton] at hch
  rcases hch with hch | rfl
  · obtain ⟨g, hg, hchg⟩ := List.mem_flatten.1 hch
    exact h.groups_digits g hg ch hchg
  · exact isDigit_digitChar dv

theorem identifier_toList_length (hf : f.identifier = .ok c) : c.toList.length = 44 := by
  obtain ⟨dv, -, hc⟩ := identifier_toList hf
  rw [hc, List.length_append, identifier_groups_length (identifier_inRange hf)]
  rfl

theorem identifier_utf8ByteSize (hf : f.identifier = .ok c) : c.utf8ByteSize = 44 := by
  rw [← length_toUTF8_toList, toUTF8_toList_of_digits (identifier_digits hf), List.length_map,
    identifier_toList_length hf]

/-- A derived identifier passes validation. -/
theorem isValidIdentifier_of_identifier (hf : f.identifier = .ok c) :
    isValidIdentifier c = true := by
  obtain ⟨dv, hdv, hc⟩ := identifier_toList hf
  have hlen := identifier_groups_length (identifier_inRange hf)
  refine (isValidIdentifier_iff_digits c).2
    ⟨identifier_utf8ByteSize hf, identifier_digits hf, dv, ?_, ?_⟩
  · rwa [hc, List.take_append_of_le_length (by omega), List.take_of_length_le (by omega)]
  · rw [hc, List.getLast?_append]
    simp

end Derived

/-- Derived identifiers are equal exactly when the fields they are written from have equal keys:
the groups have fixed widths, so equal digits cut into equal groups, and each group is read back
within the range validation allows. -/
theorem identifier_eq_iff_key {f g : Fields} {c d : String} (hf : f.identifier = .ok c)
    (hg : g.identifier = .ok d) : c = d ↔ f.identifierKey = g.identifierKey := by
  have rf := identifier_inRange hf
  have rg := identifier_inRange hg
  obtain ⟨dvf, hdvf, hc⟩ := identifier_toList hf
  obtain ⟨dvg, hdvg, hd⟩ := identifier_toList hg
  constructor
  · rintro rfl
    rw [hc] at hd
    have hflat := (List.append_inj hd (by rw [identifier_groups_length rf,
      identifier_groups_length rg])).1
    exact rf.groups_inj rg (flatten_inj_of_lengths (by rw [rf.groups_lengths, rg.groups_lengths])
      hflat)
  · intro hkey
    rw [hkey, hdvg, Except.ok.injEq] at hdvf
    apply String.ext
    rw [hc, hd, hkey, hdvf]

theorem Fields.identifierKey_eq_iff {f g : Fields} :
    f.identifierKey = g.identifierKey ↔
      f.type = g.type ∧ padLeft 8 '0' f.issuerRuc.toList = padLeft 8 '0' g.issuerRuc.toList ∧
        f.issuerDv = g.issuerDv ∧ f.establishment = g.establishment ∧
        f.pointOfSale = g.pointOfSale ∧ f.number = g.number ∧ f.taxpayerType = g.taxpayerType ∧
        f.issuedAt.date = g.issuedAt.date ∧ f.emissionType = g.emissionType ∧
        f.securityCode = g.securityCode := by
  simp only [Fields.identifierKey, IdentifierKey.mk.injEq]

/-- **Identifier layout.** A derived identifier is 44 decimal digits that pass validation: the
fields in digit groups of fixed widths followed by the check digit of those 43 digits. Hence
two derived identifiers are equal exactly when the documents agree on the ten fields they are
written from (the RUC padded with zeros, the issue time as its calendar date), and a text passes
validation exactly when it is 44 bytes of digits whose last is the check digit of the others. -/
theorem identifier_layout_injective :
    (∀ (f : Fields) (c : String), f.identifier = .ok c →
      c.utf8ByteSize = 44 ∧ (∀ ch ∈ c.toList, isDigit ch = true) ∧ isValidIdentifier c = true ∧
        f.identifierKey.groups.map List.length = identifierWidths ∧
        ∃ dv, checkDigit (String.ofList f.identifierKey.groups.flatten) = .ok dv ∧
          c.toList = f.identifierKey.groups.flatten ++ [digitChar dv]) ∧
    (∀ (f g : Fields) (c d : String), f.identifier = .ok c → g.identifier = .ok d →
      (c = d ↔ f.type = g.type ∧ padLeft 8 '0' f.issuerRuc.toList = padLeft 8 '0' g.issuerRuc.toList ∧
        f.issuerDv = g.issuerDv ∧ f.establishment = g.establishment ∧
        f.pointOfSale = g.pointOfSale ∧ f.number = g.number ∧ f.taxpayerType = g.taxpayerType ∧
        f.issuedAt.date = g.issuedAt.date ∧ f.emissionType = g.emissionType ∧
        f.securityCode = g.securityCode)) ∧
    (∀ s : String, isValidIdentifier s = true ↔
      s.utf8ByteSize = 44 ∧ (∀ ch ∈ s.toList, isDigit ch = true) ∧
        ∃ dv, checkDigit (String.ofList (s.toList.take 43)) = .ok dv ∧
          s.toList.getLast? = some (digitChar dv)) := by
  refine ⟨?layout, ?injective, isValidIdentifier_iff_digits⟩
  case layout =>
    intro f c hf
    exact ⟨identifier_utf8ByteSize hf, identifier_digits hf, isValidIdentifier_of_identifier hf,
      (identifier_inRange hf).groups_lengths, identifier_toList hf⟩
  case injective =>
    intro f g c d hf hg
    rw [identifier_eq_iff_key hf hg, Fields.identifierKey_eq_iff]

/-- The fields of an invoice issued on 15 January 2024. -/
def sampleFields : Fields where
  type := 1
  issuerRuc := "80089752"
  issuerDv := 8
  establishment := 1
  pointOfSale := 1
  number := 1
  taxpayerType := 2
  issuedAt := Time.ofCivil 2024 1 15 10 30 0 0 0
  emissionType := 1
  securityCode := 123

theorem sampleFields_identifier_valid :
    sampleFields.identifier = .ok "01800897528001001000000122024011510000001236" ∧
      isValidIdentifier "01800897528001001000000122024011510000001236" = true := by
  have hf : sampleFields.identifier = .ok "01800897528001001000000122024011510000001236" :=
    Except.eq_ok_of_toOption (by decide +kernel)
  exact ⟨hf, (identifier_layout_injective.1 _ _ hf).2.2.1⟩

end EInvoice.Invoice
