import EInvoice.Xml.Reader
import EInvoice.Xml.Writer
import Mathlib

/-!
# Writing a tree and reading it back

A tree written in canonical style reads back as the same tree, up to what the written text
cannot tell apart: adjacent runs of character data become one, empty ones vanish, and a
character that XML does not allow comes back as `U+FFFD`. This holds of every tree whose names,
attributes and markup can be written at all (`Writable`): names that read back as themselves,
attributes that do not repeat and hold characters XML allows, comments without `--`,
instructions without `?>`, directives that read back.

The proof follows the reader: first one token at a time (character data, attribute values,
names, tags, comments, instructions, directives), each read from its written text followed by
anything that cannot extend it, then the nesting of start and end tags.
-/

namespace EInvoice.Xml

/-! ## Characters -/

/-- A character as reading gives it back: one that XML does not allow is read as `U+FFFD`. -/
def readable (c : Char) : Char := if isXmlChar c then c else '�'

theorem isXmlChar_readable (c : Char) : isXmlChar (readable c) = true := by
  unfold readable
  split <;> simp_all [isXmlChar]

theorem readable_of_isXmlChar {c : Char} (h : isXmlChar c = true) : readable c = c := by
  simp [readable, h]

/-- A text as reading gives it back. -/
def readableText (d : String) : String := String.ofList (d.toList.map readable)

theorem isXmlChar_readableText (d : String) : ∀ c ∈ (readableText d).toList, isXmlChar c = true := by
  simp [readableText, isXmlChar_readable]

theorem readableText_ne_empty {d : String} (hd : d ≠ "") : readableText d ≠ "" := by
  intro h
  have hl := congrArg String.toList h
  simp only [readableText, String.toList_ofList, String.toList_empty, List.map_eq_nil_iff] at hl
  exact hd (String.toList_eq_nil_iff.1 hl)

/-- A character that XML does not allow is written as `U+FFFD` already. -/
theorem escapeChar_readable (m : Escape) (c : Char) : escapeChar m (readable c) = escapeChar m c := by
  by_cases h : isXmlChar c = true
  · rw [readable_of_isXmlChar h]
  · -- every character that escaping names is one that XML allows
    have hd : c ≠ '&' ∧ c ≠ '<' ∧ c ≠ '>' ∧ c ≠ '\'' ∧ c ≠ '"' ∧ c ≠ '\t' ∧ c ≠ '\n' ∧
        c ≠ '\r' := by
      refine ⟨?_, ?_, ?_, ?_, ?_, ?_, ?_, ?_⟩ <;> (rintro rfl; exact h rfl)
    have hr : readable c = '�' := by simp [readable, h]
    rw [hr]
    unfold escapeChar
    split <;> simp_all [isXmlChar]

theorem escape_readableText (m : Escape) (d : String) : escape m (readableText d) = escape m d := by
  have : escapeChar m ∘ readable = escapeChar m := funext (escapeChar_readable m)
  simp [escape, readableText, this]

theorem escape_toList (m : Escape) (s : String) :
    (escape m s).toList = s.toList.flatMap fun c => (escapeChar m c).toList := by
  simp [escape, List.flatMap_map]

@[simp] theorem Style.textEscape_canonical : Style.canonicalStyle.textEscape = .text := rfl
@[simp] theorem Style.valueEscape_canonical : Style.canonicalStyle.valueEscape = .attr := rfl
@[simp] theorem Style.textEscape_plain : Style.plainStyle.textEscape = .plain := rfl
@[simp] theorem Style.valueEscape_plain : Style.plainStyle.valueEscape = .plain := rfl

/-- The characters that character data writes as references. -/
def textSpecial (c : Char) : Bool := c = '&' ∨ c = '<' ∨ c = '>' ∨ c = '\r'

/-- The characters that an attribute value writes as references. -/
def attrSpecial (c : Char) : Bool := c = '&' ∨ c = '<' ∨ c = '"' ∨ c = '\t' ∨ c = '\n' ∨ c = '\r'

theorem escapeChar_text_plain {c : Char} (h : textSpecial c = false) :
    (escapeChar .text c).toList = [readable c] := by
  simp only [textSpecial, decide_eq_false_iff_not, not_or] at h
  unfold escapeChar readable
  split <;> simp_all [isXmlChar]
  split <;> simp

theorem escapeChar_attr_plain {c : Char} (h : attrSpecial c = false) :
    (escapeChar .attr c).toList = [readable c] := by
  simp only [attrSpecial, decide_eq_false_iff_not, not_or] at h
  unfold escapeChar readable
  split <;> simp_all [isXmlChar]
  split <;> simp

theorem readable_ne_of_textSpecial {c : Char} (h : textSpecial c = false) :
    readable c ≠ '<' ∧ readable c ≠ '&' ∧ readable c ≠ '>' ∧ readable c ≠ '\r' := by
  simp only [textSpecial, decide_eq_false_iff_not, not_or] at h
  unfold readable
  split <;> simp_all

theorem readable_ne_of_attrSpecial {c : Char} (h : attrSpecial c = false) :
    readable c ≠ '<' ∧ readable c ≠ '&' ∧ readable c ≠ '"' ∧ readable c ≠ '\n' ∧
      readable c ≠ '\r' := by
  simp only [attrSpecial, decide_eq_false_iff_not, not_or] at h
  unfold readable
  split <;> simp_all

/-! ## References -/

section References

variable (r : List Char)

theorem readReference_amp : readReference ('a' :: 'm' :: 'p' :: ';' :: r) = .ok (['&'], 4) := rfl

theorem readReference_lt : readReference ('l' :: 't' :: ';' :: r) = .ok (['<'], 3) := rfl

theorem readReference_gt : readReference ('g' :: 't' :: ';' :: r) = .ok (['>'], 3) := rfl

theorem readReference_quot :
    readReference ('q' :: 'u' :: 'o' :: 't' :: ';' :: r) = .ok (['"'], 5) := rfl

theorem readReference_tab : readReference ('#' :: 'x' :: '9' :: ';' :: r) = .ok (['\t'], 4) := rfl

theorem readReference_lf : readReference ('#' :: 'x' :: 'A' :: ';' :: r) = .ok (['\n'], 4) := rfl

theorem readReference_cr : readReference ('#' :: 'x' :: 'D' :: ';' :: r) = .ok (['\r'], 4) := rfl

theorem readReference_apos_numeric :
    readReference ('#' :: '3' :: '9' :: ';' :: r) = .ok (['\''], 4) := rfl

theorem readReference_quot_numeric :
    readReference ('#' :: '3' :: '4' :: ';' :: r) = .ok (['"'], 4) := rfl

end References

/-! ## Character data and attribute values -/

/-- How an escaping writes a character of character data so that it reads back: as itself, when
that is neither markup, a reference nor a line end, or as a reference that stands for it. -/
def WrittenReadably (m : Escape) (c : Char) : Prop :=
  ((escapeChar m c).toList = [readable c] ∧ readable c ≠ '<' ∧ readable c ≠ '&' ∧
      readable c ≠ '>' ∧ readable c ≠ '\r') ∨
    ∃ ref, (escapeChar m c).toList = '&' :: ref ∧
      ∀ r, readReference (ref ++ r) = .ok ([readable c], ref.length)

theorem writtenReadably_text (c : Char) : WrittenReadably .text c := by
  by_cases hs : textSpecial c = true
  · have hc : c = '&' ∨ c = '<' ∨ c = '>' ∨ c = '\r' := by simpa [textSpecial] using hs
    refine .inr ?_
    rcases hc with rfl | rfl | rfl | rfl
    · exact ⟨['a', 'm', 'p', ';'], by decide, readReference_amp⟩
    · exact ⟨['l', 't', ';'], by decide, readReference_lt⟩
    · exact ⟨['g', 't', ';'], by decide, readReference_gt⟩
    · exact ⟨['#', 'x', 'D', ';'], by decide, readReference_cr⟩
  · have hs' : textSpecial c = false := by simpa using hs
    exact .inl ⟨escapeChar_text_plain hs', readable_ne_of_textSpecial hs'⟩

/-- Numeric escaping writes every character readably: besides markup and carriage returns, it
writes quotes, tabs and line feeds as references. -/
theorem writtenReadably_numeric (c : Char) : WrittenReadably .numeric c := by
  by_cases hs : c = '&' ∨ c = '<' ∨ c = '>' ∨ c = '\'' ∨ c = '"' ∨ c = '\t' ∨ c = '\n' ∨ c = '\r'
  · refine .inr ?_
    rcases hs with rfl | rfl | rfl | rfl | rfl | rfl | rfl | rfl
    · exact ⟨['a', 'm', 'p', ';'], by decide, readReference_amp⟩
    · exact ⟨['l', 't', ';'], by decide, readReference_lt⟩
    · exact ⟨['g', 't', ';'], by decide, readReference_gt⟩
    · exact ⟨['#', '3', '9', ';'], by decide, readReference_apos_numeric⟩
    · exact ⟨['#', '3', '4', ';'], by decide, readReference_quot_numeric⟩
    · exact ⟨['#', 'x', '9', ';'], by decide, readReference_tab⟩
    · exact ⟨['#', 'x', 'A', ';'], by decide, readReference_lf⟩
    · exact ⟨['#', 'x', 'D', ';'], by decide, readReference_cr⟩
  · simp only [not_or] at hs
    obtain ⟨h1, h2, h3, h4, h5, h6, h7, h8⟩ := hs
    refine .inl ⟨?_, ?_⟩
    · unfold escapeChar readable
      split <;> simp_all [isXmlChar]
      split <;> simp
    · unfold readable
      split <;> simp_all

/-- Written character data reads back up to the markup after it. A character written as itself
is no carriage return, so the line-end rule never joins what was written. -/
theorem textRun_escaped {m : Escape} (d : List Char) (hm : ∀ c ∈ d, WrittenReadably m c)
    (b0 b1 : Char) (acc rest : List Char) (hb1 : b1 ≠ '\r') (hrest : rest = [] ∨ rest.head? = some '<') :
    textRun .markup b0 b1 acc ((d.flatMap fun c => (escapeChar m c).toList) ++ rest) =
      .ok (acc.reverse ++ d.map readable, rest) := by
  have hq : ∀ q, TextEnd.markup ≠ TextEnd.quote q := fun q h => by cases h
  induction d generalizing b0 b1 acc with
  | nil =>
    rcases hrest with rfl | hrest
    · simp [textRun]
    · obtain ⟨r, rfl⟩ : ∃ r, rest = '<' :: r := by
        cases rest with
        | nil => simp at hrest
        | cons x r => simp at hrest; exact ⟨r, by rw [hrest]⟩
      simp [textRun]
  | cons c d ih =>
    have hd : ∀ c ∈ d, WrittenReadably m c := fun c hc => hm c (List.mem_cons_of_mem _ hc)
    rcases hm c List.mem_cons_self with ⟨hplain, hlt, hamp, hgt, hcr⟩ | ⟨ref, href, hread⟩
    · rw [List.flatMap_cons, hplain, List.singleton_append, List.cons_append]
      rw [textRun]
      · simp [hlt, hamp, hgt, hcr, hb1, hq]
        rw [ih hd _ _ _ hcr]
        simp
      · exact hq
    · -- the reference is read as a whole, and reading goes on after it
      simp only [List.flatMap_cons, href, List.cons_append, List.append_assoc]
      rw [textRun]
      · simp [hread, ih hd _ _ _ (show '\x00' ≠ '\r' by decide)]
      · exact hq

/-- How an escaping writes a character of an attribute value in double quotes so that it reads
back: as itself, when that is neither markup, a reference, the quote nor a carriage return, or as
a reference that stands for it. -/
def QuotedReadably (m : Escape) (c : Char) : Prop :=
  ((escapeChar m c).toList = [readable c] ∧ readable c ≠ '<' ∧ readable c ≠ '&' ∧
      readable c ≠ '"' ∧ readable c ≠ '\r') ∨
    ∃ ref, (escapeChar m c).toList = '&' :: ref ∧
      ∀ r, readReference (ref ++ r) = .ok ([readable c], ref.length)

/-- A written attribute value reads back up to its closing quote. -/
theorem textRun_quote_escaped {m : Escape} (d : List Char) (hm : ∀ c ∈ d, QuotedReadably m c)
    (b0 b1 : Char) (acc rest : List Char) (hb1 : b1 ≠ '\r') :
    textRun (.quote '"') b0 b1 acc ((d.flatMap fun c => (escapeChar m c).toList) ++
      '"' :: rest) = .ok (acc.reverse ++ d.map readable, rest) := by
  induction d generalizing b0 b1 acc with
  | nil => simp [textRun]
  | cons c d ih =>
    have hd : ∀ c ∈ d, QuotedReadably m c := fun c hc => hm c (List.mem_cons_of_mem _ hc)
    rcases hm c List.mem_cons_self with ⟨hplain, hlt, hamp, hquot, hcr⟩ | ⟨ref, href, hread⟩
    · rw [List.flatMap_cons, hplain, List.singleton_append, List.cons_append]
      rw [textRun]
      simp [hlt, hamp, hcr, hb1, Ne.symm hquot]
      rw [ih hd _ _ _ hcr]
      simp
    · simp only [List.flatMap_cons, href, List.cons_append, List.append_assoc]
      rw [textRun]
      simp [hread, ih hd _ _ _ (show '\x00' ≠ '\r' by decide)]

/-- Canonical escaping writes every character of an attribute value readably: besides markup,
it writes the quote, tabs and line ends as references. -/
theorem quotedReadably_attr (c : Char) : QuotedReadably .attr c := by
  by_cases hs : attrSpecial c = true
  · have hc : c = '&' ∨ c = '<' ∨ c = '"' ∨ c = '\t' ∨ c = '\n' ∨ c = '\r' := by
      simpa [attrSpecial] using hs
    refine .inr ?_
    rcases hc with rfl | rfl | rfl | rfl | rfl | rfl
    · exact ⟨['a', 'm', 'p', ';'], by decide, readReference_amp⟩
    · exact ⟨['l', 't', ';'], by decide, readReference_lt⟩
    · exact ⟨['q', 'u', 'o', 't', ';'], by decide, readReference_quot⟩
    · exact ⟨['#', 'x', '9', ';'], by decide, readReference_tab⟩
    · exact ⟨['#', 'x', 'A', ';'], by decide, readReference_lf⟩
    · exact ⟨['#', 'x', 'D', ';'], by decide, readReference_cr⟩
  · have hs' : attrSpecial c = false := by simpa using hs
    obtain ⟨hlt, hamp, hquot, -, hcr⟩ := readable_ne_of_attrSpecial hs'
    exact .inl ⟨escapeChar_attr_plain hs', hlt, hamp, hquot, hcr⟩

theorem find_false (d : List Char) : List.find? (fun _ => false) d = none :=
  List.find?_eq_none.mpr (by simp)

theorem readText_escaped {m : Escape} (d : List Char) (hm : ∀ c ∈ d, WrittenReadably m c)
    (rest : List Char) (hrest : rest = [] ∨ rest.head? = some '<') :
    readText .markup ((d.flatMap fun c => (escapeChar m c).toList) ++ rest) =
      .ok (String.ofList (d.map readable), rest) := by
  rw [readText, textRun_escaped d hm '\x00' '\x00' [] rest (by decide) hrest]
  simp only [List.reverse_nil, List.nil_append]
  simp [bind, Except.bind, isXmlChar_readable, find_false, pure, Except.pure]

theorem readText_quote_escaped {m : Escape} (d : List Char) (hm : ∀ c ∈ d, QuotedReadably m c)
    (rest : List Char) :
    readText (.quote '"') ((d.flatMap fun c => (escapeChar m c).toList) ++ '"' :: rest) =
      .ok (String.ofList (d.map readable), rest) := by
  rw [readText, textRun_quote_escaped d hm '\x00' '\x00' [] rest (by decide)]
  simp only [List.reverse_nil, List.nil_append]
  simp [bind, Except.bind, isXmlChar_readable, find_false, pure, Except.pure]

/-! ## Names and attributes -/

theorem nameByte_of_isNameRest {c : Char} (h : isNameRest c = true) : nameByte c = true := by
  unfold isNameRest isNameStart at h
  unfold nameByte
  by_cases hc : c.toNat < 0x80
  · simp only [hc, if_true, Bool.or_eq_true, decide_eq_true_eq] at h
    simp only [Char.isAlphanum, Bool.or_eq_true, decide_eq_true_eq]
    tauto
  · simp only [ge_iff_le, Bool.or_eq_true, decide_eq_true_eq]
    omega

theorem isSpace_of_nameByte {c : Char} (h : nameByte c = true) : isSpace c = false := by
  revert h
  unfold isSpace
  by_cases hs : c = ' ' ∨ c = '\r' ∨ c = '\n' ∨ c = '\t'
  · rcases hs with rfl | rfl | rfl | rfl <;> decide
  · simp [hs]

theorem all_nameByte_of_isName {cs : List Char} (h : isName cs = true) :
    ∀ c ∈ cs, nameByte c = true := by
  cases cs with
  | nil => simp [isName] at h
  | cons c0 cs =>
    simp only [isName, Bool.and_eq_true, List.all_eq_true] at h
    intro c hc
    rcases List.mem_cons.1 hc with rfl | hc
    · exact nameByte_of_isNameRest (by simp [isNameRest, h.1])
    · exact nameByte_of_isNameRest (h.2 c hc)

theorem span_nameByte {cs : List Char} (h : ∀ c ∈ cs, nameByte c = true) {c : Char}
    (hc : nameByte c = false) (rest : List Char) :
    (cs ++ c :: rest).span nameByte = (cs, c :: rest) := by
  rw [List.span_eq_takeWhile_dropWhile, List.takeWhile_append_of_pos h,
    List.dropWhile_append_of_pos h]
  simp [hc]

theorem readName_name {cs : List Char} (h : isName cs = true) {c : Char} (hc : nameByte c = false)
    (rest : List Char) : readName (cs ++ c :: rest) = .ok (some (String.ofList cs), c :: rest) := by
  have hall := all_nameByte_of_isName h
  obtain ⟨c0, cs', rfl⟩ : ∃ c0 cs', cs = c0 :: cs' := by
    cases cs with
    | nil => simp [isName] at h
    | cons c0 cs' => exact ⟨c0, cs', rfl⟩
  have hspan := span_nameByte hall hc rest
  rw [List.cons_append] at hspan ⊢
  rw [readName]
  simp only [hall c0 (by simp), Bool.not_true, Bool.false_eq_true, if_false, hspan]
  simp [h]

/-- A prefix and local name that reading gives back as they are. -/
def NameReads (space local_ : String) : Prop :=
  isName (fullName space local_).toList = true ∧ splitQName (fullName space local_) = some (space, local_)

theorem readQName_name {sp t : String} (h : NameReads sp t) {c : Char} (hc : nameByte c = false)
    (rest : List Char) :
    readQName ((fullName sp t).toList ++ c :: rest) = .ok (some (sp, t), c :: rest) := by
  simp [readQName, readName_name h.1 hc, String.ofList_toList, h.2, bind, Except.bind, pure,
    Except.pure]


theorem NameReads.exists_cons {sp t : String} (h : NameReads sp t) :
    ∃ c cs, (fullName sp t).toList = c :: cs ∧ nameByte c = true := by
  obtain ⟨hname, -⟩ := h
  cases hcs : (fullName sp t).toList with
  | nil => simp [hcs, isName] at hname
  | cons c cs =>
    rw [hcs] at hname
    exact ⟨c, cs, rfl, all_nameByte_of_isName hname c (by simp)⟩

theorem skipSpace_blank_name {c : Char} (h : nameByte c = true) (cs : List Char) :
    skipSpace (' ' :: c :: cs) = c :: cs := by
  simp [skipSpace, isSpace_of_nameByte h, show isSpace ' ' = true from rfl]

theorem map_readable {l : List Char} (h : ∀ c ∈ l, isXmlChar c = true) : l.map readable = l := by
  conv => rhs; rw [← List.map_id l]
  exact List.map_congr_left fun c hc => readable_of_isXmlChar (h c hc)

/-- An attribute that reads back as it is written: its name reads back and its value holds
only characters that XML allows. -/
def AttrWritable (a : Attr) : Prop :=
  NameReads a.space a.key ∧ ∀ c ∈ a.value.toList, isXmlChar c = true

theorem renderAttr_toList (s : Style) (a : Attr) :
    (renderAttr s a).toList =
      ' ' :: (a.fullKey.toList ++ '=' :: '"' ::
        ((a.value.toList.flatMap fun c => (escapeChar s.valueEscape c).toList) ++ ['"'])) := by
  simp [renderAttr, escape_toList]

/-- How a start tag ends: with `/>` when the element closes itself, with `>` otherwise. -/
def tagEnd (closed : Bool) : List Char := if closed then ['/', '>'] else ['>']

/-- Attributes written in style `s` read back as they are, when their names read back, no
value holds a character that the style writes unreadably, and XML allows every character. -/
theorem readAttrs_written (s : Style) (as : List Attr) (h : ∀ a ∈ as, AttrWritable a)
    (hv : ∀ a ∈ as, ∀ c ∈ a.value.toList, QuotedReadably s.valueEscape c) (closed : Bool) :
    ∀ (fuel : Nat) (acc : List Attr) (rest : List Char), as.length < fuel →
    readAttrs fuel acc ((as.flatMap fun a => (renderAttr s a).toList) ++ (tagEnd closed ++ rest)) =
      .ok ((acc.reverse ++ as, closed), rest) := by
  induction as with
  | nil =>
    intro fuel acc rest hf
    obtain ⟨f, rfl⟩ : ∃ f, fuel = f + 1 := ⟨fuel - 1, by simp at hf; omega⟩
    cases closed <;> simp [readAttrs, skipSpace, isSpace, tagEnd]
  | cons a as ih =>
    intro fuel acc rest hf
    obtain ⟨f, rfl⟩ : ∃ f, fuel = f + 1 := ⟨fuel - 1, by simp at hf; omega⟩
    obtain ⟨⟨hname, hvalue⟩, has⟩ : AttrWritable a ∧ ∀ b ∈ as, AttrWritable b := by simpa using h
    have hva := hv a List.mem_cons_self
    have hvs : ∀ b ∈ as, ∀ c ∈ b.value.toList, QuotedReadably s.valueEscape c :=
      fun b hb => hv b (List.mem_cons_of_mem _ hb)
    obtain ⟨k, ks, hk, hkb⟩ := hname.exists_cons
    set more := (as.flatMap fun a => (renderAttr s a).toList) ++ (tagEnd closed ++ rest)
    have hquote := readText_quote_escaped a.value.toList hva more
    rw [map_readable hvalue, String.ofList_toList] at hquote
    have hq := readQName_name hname (c := '=') (by decide)
      ('"' :: ((a.value.toList.flatMap fun c => (escapeChar s.valueEscape c).toList) ++ '"' :: more))
    rw [List.flatMap_cons, renderAttr_toList, List.cons_append, List.append_assoc]
    rw [readAttrs]
    simp only [Attr.fullKey, hk, List.cons_append, List.append_assoc, List.nil_append] at hq ⊢
    have hk' : k ≠ '/' ∧ k ≠ '>' := ⟨by rintro rfl; simp [nameByte] at hkb,
      by rintro rfl; simp [nameByte] at hkb⟩
    rw [skipSpace_blank_name hkb]
    split
    · rename_i heq; simp at heq
    · rename_i heq; simp at heq; exact absurd heq.1 hk'.1
    · rename_i heq; simp at heq; exact absurd heq.1 hk'.2
    · rw [hq]
      simp only [bind, Except.bind, skipSpace, List.dropWhile_cons, show isSpace '=' = false from rfl,
        show isSpace '"' = false from rfl, if_true, Bool.false_eq_true, if_false, true_or]
      rw [hquote]
      simp only
      rw [ih has hvs f _ rest (by simp at hf; omega)]
      simp

/-! ## Comments and processing instructions -/

/-- A comment body that XML allows: no `--`, and no `-` at its end. -/
def CommentWritable (d : List Char) : Prop := ¬ ['-', '-'] <:+: d ∧ d.getLast? ≠ some '-'

theorem CommentWritable.tail {c : Char} {d : List Char} (h : CommentWritable (c :: d)) :
    CommentWritable d := by
  refine ⟨fun hd => h.1 (hd.trans (List.suffix_cons c d).isInfix), fun hd => h.2 ?_⟩
  cases d with
  | nil => simp at hd
  | cons x d => simpa [List.getLast?_cons_cons] using hd

theorem commentBody_written (d rest : List Char) (h : CommentWritable d) :
    commentBody (d ++ '-' :: '-' :: '>' :: rest) = .ok (d, rest) := by
  induction d with
  | nil => simp [commentBody]
  | cons c d ih =>
    have hd := ih h.tail
    -- a dash is followed by something other than a dash, within the body
    have hdash : c = '-' → ∃ x d', d = x :: d' ∧ x ≠ '-' := by
      rintro rfl
      cases d with
      | nil => exact absurd rfl h.2
      | cons x d' =>
        refine ⟨x, d', rfl, ?_⟩
        rintro rfl
        exact h.1 (List.prefix_append ['-', '-'] d').isInfix
    by_cases hc : c = '-'
    · obtain ⟨x, d', rfl, hx⟩ := hdash hc
      subst hc
      simp only [List.cons_append] at hd ⊢
      rw [commentBody]
      · simp [hd, bind, Except.bind, pure, Except.pure]
      all_goals simp_all
    · simp only [List.cons_append]
      rw [commentBody]
      · simp [hd, bind, Except.bind, pure, Except.pure]
      all_goals simp_all

theorem instructionBody_written (b rest : List Char) (h : ¬ ['?', '>'] <:+: b) :
    instructionBody (b ++ '?' :: '>' :: rest) = .ok (b, rest) := by
  induction b with
  | nil => simp [instructionBody]
  | cons c b ih =>
    have hb : ¬ ['?', '>'] <:+: b := fun hb => h (hb.trans (List.suffix_cons c b).isInfix)
    -- the body never holds `?>`, so the first pattern cannot match inside it
    have hq : c = '?' → b.head? ≠ some '>' := by
      rintro rfl hb'
      cases b with
      | nil => simp at hb'
      | cons x b' =>
        simp only [List.head?_cons, Option.some.injEq] at hb'
        subst hb'
        exact h (List.prefix_append ['?', '>'] b').isInfix
    simp only [List.cons_append]
    rw [instructionBody]
    · simp [ih hb, bind, Except.bind, pure, Except.pure]
    · intro r hc heq
      cases b with
      | nil => simp at heq
      | cons x b' =>
        simp only [List.cons_append, List.cons.injEq] at heq
        exact hq hc (by simp [heq.1])

/-- A processing instruction that reads back as it is written: its target is a name, its body
holds no `?>` and starts with no blank, and a declaration names version `1.0` or none. -/
def InstructionWritable (t b : String) : Prop :=
  isName t.toList = true ∧ ¬ ['?', '>'] <:+: b.toList ∧ (∀ c ∈ b.toList.head?, isSpace c = false) ∧
    (t = "xml" → declaredVersion b.toList = "" ∨ declaredVersion b.toList = "1.0")

theorem readInstruction_written {t b : String} (h : InstructionWritable t b) (rest : List Char) :
    readInstruction (t.toList ++ (if b.isEmpty then [] else ' ' :: b.toList) ++ '?' :: '>' :: rest) =
      .ok (.instruction t b, rest) := by
  obtain ⟨hname, hbody, hblank, hversion⟩ := h
  have hv : ¬ (t = "xml" ∧ declaredVersion b.toList ≠ "" ∧ declaredVersion b.toList ≠ "1.0") := by
    rintro ⟨rfl, h1, h2⟩
    rcases hversion rfl with h | h <;> contradiction
  by_cases hb : b.isEmpty = true
  · obtain rfl : b = "" := by simpa using hb
    simp only [hb, if_true, List.append_nil]
    simp [readInstruction, readName_name hname (c := '?') (by decide), skipSpace, isSpace,
      instructionBody, bind, Except.bind, pure, Except.pure, String.ofList_toList]
    simpa using hv
  · obtain ⟨x, xs, hx⟩ : ∃ x xs, b.toList = x :: xs := by
      cases h : b.toList with
      | nil => simp_all
      | cons x xs => exact ⟨x, xs, rfl⟩
    have hx' : isSpace x = false := hblank x (by simp [hx])
    simp only [hb, Bool.false_eq_true, if_false, List.append_assoc, List.cons_append]
    rw [readInstruction, readName_name hname (c := ' ') (by decide)]
    simp only [bind, Except.bind]
    rw [show skipSpace (' ' :: (b.toList ++ '?' :: '>' :: rest)) = b.toList ++ '?' :: '>' :: rest by
      simp [skipSpace, hx, hx', show isSpace ' ' = true from rfl]]
    rw [instructionBody_written _ _ hbody]
    simp [hv, String.ofList_toList, pure, Except.pure]

/-- A directive that the reader takes back as it is written. -/
def DirectiveWritable (d : String) : Prop :=
  ∀ rest, readBang (d.toList ++ '>' :: rest) = .ok (.directive d, rest)

/-! ## Trees that can be written, and what reading them gives -/

mutual
/-- A node that reads back as it is written: names that read back, attributes that read back
and do not repeat, character data of characters that XML allows, and comments, instructions
and directives that read back. -/
def WritableNode : Node → Prop
  | .elem sp t as cs =>
    NameReads sp t ∧ (∀ a ∈ as, AttrWritable a) ∧ (as.map fun a => (a.space, a.key)).Nodup ∧
      WritableNodes cs
  | .text _ => True
  | .comment d => CommentWritable d.toList
  | .instruction t b => InstructionWritable t b
  | .directive d => DirectiveWritable d
/-- Nodes that each read back as they are written. -/
def WritableNodes : List Node → Prop
  | [] => True
  | n :: ns => WritableNode n ∧ WritableNodes ns
end

/-- Whether a node is character data. -/
def Node.isText : Node → Bool
  | .text _ => true
  | _ => false

/-- Character data in front of nodes, as reading gives it: joined with character data that
stands first, and gone when empty. -/
def consText (d : String) : List Node → List Node
  | .text e :: ns => .text (d ++ e) :: ns
  | ns => if d.isEmpty then ns else .text d :: ns

mutual
/-- A node in front of nodes that are already as reading gives them. -/
def joinNode : Node → List Node → List Node
  | .elem sp t as cs, ns => .elem sp t as (joinTexts cs) :: ns
  | .text d, ns => consText (readableText d) ns
  | n, ns => n :: ns
/-- Nodes as reading their written text gives them back: adjacent character data joined,
empty character data gone and characters that XML does not allow read as `U+FFFD`, at every
level. -/
def joinTexts : List Node → List Node
  | [] => []
  | n :: ns => joinNode n (joinTexts ns)
end

mutual
/-- A node as reading gives it: character data is not empty and holds only characters that
XML allows, at every level. -/
def JoinedNode : Node → Prop
  | .elem _ _ _ cs => JoinedNodes cs
  | .text d => d ≠ "" ∧ ∀ c ∈ d.toList, isXmlChar c = true
  | _ => True
/-- Nodes as reading gives them: no two runs of character data side by side. -/
def JoinedNodes : List Node → Prop
  | [] => True
  | n :: ns => JoinedNode n ∧ (n.isText → ∀ m ∈ ns.head?, m.isText = false) ∧ JoinedNodes ns
end

mutual
/-- The number of tokens a node is read as. -/
def tokenCount : Node → Nat
  | .elem _ _ _ cs => tokenCounts cs + 2
  | _ => 1
/-- The number of tokens nodes are read as. -/
def tokenCounts : List Node → Nat
  | [] => 0
  | n :: ns => tokenCount n + tokenCounts ns
end

/-! ## Written forms -/

section Equations

variable (s : Style) (sp t b d : String) (as : List Attr) (n : Node) (ns : List Node)

/-! How `renderNode` writes each kind of node. The lemmas about written forms rewrite with these
by name rather than each unfolding `renderNode` on its own. -/

theorem renderNode_text : renderNode s (.text d) = escape s.textEscape d := rfl

theorem renderNode_comment : renderNode s (.comment d) = "<!--" ++ d ++ "-->" := rfl

theorem renderNode_instruction :
    renderNode s (.instruction t b) = "<?" ++ t ++ (if b.isEmpty then "" else " " ++ b) ++ "?>" :=
  rfl

theorem renderNode_directive : renderNode s (.directive d) = "<!" ++ d ++ ">" := rfl

theorem renderNode_elem_nil :
    renderNode s (.elem sp t as []) =
      if s.canonical then "<" ++ fullName sp t ++ String.join (as.map (renderAttr s)) ++ "></" ++
        fullName sp t ++ ">"
      else "<" ++ fullName sp t ++ String.join (as.map (renderAttr s)) ++ "/>" := rfl

theorem renderNode_elem_cons :
    renderNode s (.elem sp t as (n :: ns)) =
      "<" ++ fullName sp t ++ String.join (as.map (renderAttr s)) ++ ">" ++
        renderNodes s (n :: ns) ++ "</" ++ fullName sp t ++ ">" := rfl

theorem renderNodes_nil : renderNodes s [] = "" := rfl

end Equations

section Written

variable (sp t b d : String) (as : List Attr) (cs : List Node)

theorem renderNode_text_toList :
    (renderNode .canonicalStyle (.text d)).toList =
      d.toList.flatMap fun c => (escapeChar .text c).toList := by
  simp [renderNode_text, Style.textEscape, Style.canonicalStyle, escape_toList]

theorem renderNode_comment_toList :
    (renderNode .canonicalStyle (.comment d)).toList =
      '<' :: '!' :: '-' :: '-' :: (d.toList ++ ['-', '-', '>']) := by
  simp [renderNode_comment, show "<!--".toList = ['<', '!', '-', '-'] by decide,
    show "-->".toList = ['-', '-', '>'] by decide]

theorem renderNode_instruction_toList :
    (renderNode .canonicalStyle (.instruction t b)).toList =
      '<' :: '?' :: (t.toList ++ (if b.isEmpty then [] else ' ' :: b.toList) ++ ['?', '>']) := by
  simp [renderNode_instruction, show "<?".toList = ['<', '?'] by decide,
    show "?>".toList = ['?', '>'] by decide]
  split <;> simp

theorem renderNode_directive_toList :
    (renderNode .canonicalStyle (.directive d)).toList = '<' :: '!' :: (d.toList ++ ['>']) := by
  simp [renderNode_directive, show "<!".toList = ['<', '!'] by decide]

/-- In canonical style an element is always written with a start and an end tag. -/
theorem renderNode_elem_toList :
    (renderNode .canonicalStyle (.elem sp t as cs)).toList =
      '<' :: ((fullName sp t).toList ++ (as.flatMap fun a => (renderAttr .canonicalStyle a).toList) ++
        '>' :: ((renderNodes .canonicalStyle cs).toList ++
          '<' :: '/' :: ((fullName sp t).toList ++ ['>']))) := by
  cases cs with
  | nil => simp [renderNode_elem_nil, renderNodes_nil, Style.canonicalStyle, List.flatMap_map]
  | cons n ns => simp [renderNode_elem_cons, List.flatMap_map]

end Written

section Styles

variable (s : Style) (sp t : String) (as : List Attr)

/-- An element with children, or any element in canonical style, is written with a start and an
end tag. -/
theorem renderNode_elem_open {cs : List Node} (h : cs ≠ [] ∨ s.canonical = true) :
    (renderNode s (.elem sp t as cs)).toList =
      '<' :: ((fullName sp t).toList ++ ((as.flatMap fun a => (renderAttr s a).toList) ++
        ('>' :: ((renderNodes s cs).toList ++ '<' :: '/' :: ((fullName sp t).toList ++ ['>']))))) := by
  cases cs with
  | nil =>
    have hc : s.canonical = true := by simpa using h
    simp [renderNode_elem_nil, renderNodes_nil, hc, List.flatMap_map]
  | cons n ns => simp [renderNode_elem_cons, List.flatMap_map]

/-- In plain style an element without children closes itself. -/
theorem renderNode_elem_closed (h : s.canonical = false) :
    (renderNode s (.elem sp t as [])).toList =
      '<' :: ((fullName sp t).toList ++ ((as.flatMap fun a => (renderAttr s a).toList) ++ ['/', '>'])) := by
  simp [renderNode_elem_nil, h, List.flatMap_map]

theorem renderNode_comment_style (d : String) :
    renderNode s (.comment d) = renderNode .canonicalStyle (.comment d) := rfl

theorem renderNode_instruction_style (b : String) :
    renderNode s (.instruction t b) = renderNode .canonicalStyle (.instruction t b) := rfl

theorem renderNode_directive_style (d : String) :
    renderNode s (.directive d) = renderNode .canonicalStyle (.directive d) := rfl

end Styles

/-- Every node but character data is written from a `<`, in either style. -/
theorem renderNode_head (s : Style) {n : Node} (h : n.isText = false) :
    (renderNode s n).toList.head? = some '<' := by
  cases n with
  | elem sp t as cs =>
    by_cases hc : cs ≠ [] ∨ s.canonical = true
    · simp [renderNode_elem_open s sp t as hc]
    · obtain ⟨rfl, hs⟩ : cs = [] ∧ s.canonical = false := by simpa using hc
      simp [renderNode_elem_closed s sp t as hs]
  | text d => simp [Node.isText] at h
  | comment d => simp [renderNode_comment_style, renderNode_comment_toList]
  | instruction t b => simp [renderNode_instruction_style, renderNode_instruction_toList]
  | directive d => simp [renderNode_directive_style, renderNode_directive_toList]

/-- The text of an element around the text of its content: start tag with its attributes, the
content, end tag. -/
def elementText (sp t : String) (as : List Attr) (body : List Char) : List Char :=
  '<' :: ((fullName sp t).toList ++ (as.flatMap fun a => (renderAttr .canonicalStyle a).toList) ++
    '>' :: (body ++ '<' :: '/' :: ((fullName sp t).toList ++ ['>'])))

/-! ## One token at a time -/

theorem length_le_renderAttrs (s : Style) (as : List Attr) :
    as.length ≤ (as.flatMap fun a => (renderAttr s a).toList).length := by
  induction as with
  | nil => simp
  | cons a as ih => simp [renderAttr_toList]; omega

theorem readStart_written (s : Style) {sp t : String} (h : NameReads sp t) {as : List Attr}
    (ha : ∀ a ∈ as, AttrWritable a) (hv : ∀ a ∈ as, ∀ c ∈ a.value.toList, QuotedReadably s.valueEscape c)
    (closed : Bool) (rest : List Char) :
    readStart ((fullName sp t).toList ++ ((as.flatMap fun a => (renderAttr s a).toList) ++
      (tagEnd closed ++ rest))) = .ok (.start sp t as closed, rest) := by
  -- the name ends where the first attribute's blank or the end of the tag stands
  obtain ⟨c, more, hcm, hc⟩ : ∃ c more,
      (as.flatMap fun a => (renderAttr s a).toList) ++ (tagEnd closed ++ rest) = c :: more ∧
        nameByte c = false := by
    cases as with
    | nil => cases closed <;> exact ⟨_, _, rfl, rfl⟩
    | cons a as =>
      refine ⟨' ', (renderAttr s a).toList.tail ++
        (as.flatMap fun a => (renderAttr s a).toList) ++ (tagEnd closed ++ rest), ?_, rfl⟩
      simp [renderAttr_toList]
  have hlen : as.length < (c :: more).length + 1 := by
    have := length_le_renderAttrs s as
    rw [← hcm]
    simp only [List.length_append]
    omega
  rw [hcm, readStart, readQName_name h hc]
  simp only [bind, Except.bind]
  rw [← hcm, readAttrs_written s as ha hv closed _ [] rest (by rwa [hcm])]
  simp [pure, Except.pure]

/-- After `<`, a character that opens no end tag, instruction or directive opens a start
tag. -/
theorem nextToken_lt_start {c : Char} (h1 : c ≠ '/') (h2 : c ≠ '?') (h3 : c ≠ '!')
    (r : List Char) :
    nextToken ('<' :: c :: r) = (readStart (c :: r)).map fun (t, r) => (some t, r) := by
  simp only [nextToken]
  split <;> simp_all

theorem nextToken_start (s : Style) {sp t : String} (h : NameReads sp t) {as : List Attr}
    (ha : ∀ a ∈ as, AttrWritable a) (hv : ∀ a ∈ as, ∀ c ∈ a.value.toList, QuotedReadably s.valueEscape c)
    (closed : Bool) (rest : List Char) :
    nextToken ('<' :: ((fullName sp t).toList ++
      ((as.flatMap fun a => (renderAttr s a).toList) ++ (tagEnd closed ++ rest)))) =
      .ok (some (.start sp t as closed), rest) := by
  obtain ⟨k, ks, hk, hkb⟩ := h.exists_cons
  have hne : ∀ x, nameByte x = false → k ≠ x := by rintro x hx rfl; simp_all
  have hs := readStart_written s h ha hv closed rest
  rw [hk] at hs ⊢
  rw [List.cons_append] at hs ⊢
  rw [nextToken_lt_start (hne '/' rfl) (hne '?' rfl) (hne '!' rfl), hs]
  rfl

theorem nextToken_stop {sp t : String} (h : NameReads sp t) (rest : List Char) :
    nextToken ('<' :: '/' :: ((fullName sp t).toList ++ '>' :: rest)) =
      .ok (some (.stop sp t), rest) := by
  simp [nextToken, readStop, readQName_name h (c := '>') rfl, skipSpace, isSpace, bind,
    Except.bind, pure, Except.pure, Except.map]

/-- A readably written character is written from something other than `<`. -/
theorem WrittenReadably.head {m : Escape} {c : Char} (h : WrittenReadably m c) :
    ∃ e es, (escapeChar m c).toList = e :: es ∧ e ≠ '<' := by
  rcases h with ⟨hplain, hlt, -⟩ | ⟨ref, href, -⟩
  · exact ⟨readable c, [], hplain, hlt⟩
  · exact ⟨'&', ref, href, by decide⟩

/-- Text that does not open with `<` is read as character data. -/
theorem nextToken_char {x : Char} (hx : x ≠ '<') (r : List Char) :
    nextToken (x :: r) = (readText .markup (x :: r)).map fun (d, r) => (some (.text d), r) := by
  simp only [nextToken]
  split <;> simp_all

/-- Character data written by a readable escaping is read as one token, up to the markup
after it. -/
theorem nextToken_escaped {m : Escape} {d : String} (hm : ∀ c ∈ d.toList, WrittenReadably m c)
    (hd : d ≠ "") {rest : List Char} (hrest : ∀ c ∈ rest.head?, c = '<') :
    nextToken ((escape m d).toList ++ rest) = .ok (some (.text (readableText d)), rest) := by
  have hrest' : rest = [] ∨ rest.head? = some '<' := by
    cases rest with
    | nil => exact .inl rfl
    | cons c r => exact .inr (by simpa using hrest)
  obtain ⟨c, d', hcd⟩ : ∃ c d', d.toList = c :: d' := by
    cases h : d.toList with
    | nil => exact absurd (String.toList_eq_nil_iff.1 h) hd
    | cons c d' => exact ⟨c, d', rfl⟩
  obtain ⟨e, es, he, hne⟩ := (hm c (by simp [hcd])).head
  have hread := readText_escaped d.toList hm rest hrest'
  rw [escape_toList]
  rw [hcd, List.flatMap_cons, he, List.cons_append, List.cons_append] at hread ⊢
  rw [nextToken_char hne, hread]
  simp [readableText, hcd, Except.map]

theorem nextToken_text {d : String} (hd : d ≠ "") (hx : ∀ c ∈ d.toList, isXmlChar c = true)
    {rest : List Char} (hrest : ∀ c ∈ rest.head?, c = '<') :
    nextToken ((renderNode .canonicalStyle (.text d)).toList ++ rest) =
      .ok (some (.text d), rest) := by
  have h := nextToken_escaped (fun c _ => writtenReadably_text c) hd hrest
  rwa [readableText, map_readable hx, String.ofList_toList] at h

theorem nextToken_comment {d : String} (h : CommentWritable d.toList) (rest : List Char) :
    nextToken ((renderNode .canonicalStyle (.comment d)).toList ++ rest) =
      .ok (some (.comment d), rest) := by
  simp [renderNode_comment_toList, nextToken, readBang, commentBody_written _ _ h, bind,
    Except.bind, pure, Except.pure, Except.map]

theorem nextToken_instruction {t b : String} (h : InstructionWritable t b) (rest : List Char) :
    nextToken ((renderNode .canonicalStyle (.instruction t b)).toList ++ rest) =
      .ok (some (.instruction t b), rest) := by
  have hi := readInstruction_written h rest
  simp only [List.append_assoc, String.isEmpty_iff] at hi
  simp [renderNode_instruction_toList, nextToken, hi, Except.map]

theorem nextToken_directive {d : String} (h : DirectiveWritable d) (rest : List Char) :
    nextToken ((renderNode .canonicalStyle (.directive d)).toList ++ rest) =
      .ok (some (.directive d), rest) := by
  simp [renderNode_directive_toList, nextToken, h rest, Except.map]

/-! ## Nesting -/

theorem readTokens_step {input s rest : List Char} {fuel : Nat} {st st' : Stack} {t : Token}
    (ht : nextToken s = .ok (some t, rest)) (hst : st.step t = some st') :
    readTokens input (fuel + 1) st s = readTokens input fuel st' rest := by
  simp [readTokens, ht, hst]

theorem readTokens_nil {input : List Char} {fuel : Nat} {st : Stack} (h : st.open_ = []) :
    readTokens input (fuel + 1) st [] = .ok st.top.reverse := by
  simp [readTokens, nextToken, h]

/-- Nodes read inside an open element become its children. -/
theorem foldl_push_open (ns : List Node) (o : OpenElement) (os : List OpenElement)
    (top : List Node) :
    ns.foldl Stack.push ⟨o :: os, top⟩ = ⟨{ o with children := ns.reverse ++ o.children } :: os, top⟩ := by
  induction ns generalizing o with
  | nil => simp
  | cons n ns ih => simp [Stack.push, OpenElement.push, ih]

/-- Nodes read outside every element become top-level nodes. -/
theorem foldl_push_top (ns top : List Node) :
    ns.foldl Stack.push ⟨[], top⟩ = ⟨[], ns.reverse ++ top⟩ := by
  induction ns generalizing top with
  | nil => simp
  | cons n ns ih => simp [Stack.push, ih]

/-- Attributes that do not repeat are kept as they are. -/
theorem mergeAttrs_of_nodup {as : List Attr} (h : (as.map fun a => (a.space, a.key)).Nodup) :
    mergeAttrs as = as := by
  -- the fold only ever appends, as no attribute meets one with its name before it
  suffices ∀ acc : List Attr, ((acc ++ as).map fun a => (a.space, a.key)).Nodup →
      as.foldl (fun acc a =>
        if acc.any (fun b => b.space == a.space && b.key == a.key) then
          acc.map fun b => if b.space == a.space && b.key == a.key then { b with value := a.value } else b
        else acc ++ [a]) acc = acc ++ as from this [] (by simpa using h)
  clear h
  induction as with
  | nil => simp
  | cons a as ih =>
    intro acc hacc
    have hnew : acc.any (fun b => b.space == a.space && b.key == a.key) = false := by
      simp only [List.map_append, List.map_cons, List.nodup_append, List.nodup_cons,
        List.mem_map] at hacc
      simp only [List.any_eq_false, Bool.and_eq_true, beq_iff_eq, not_and]
      intro b hb hs hk
      exact hacc.2.2 _ ⟨b, hb, rfl⟩ _ (.head _) (by rw [hs, hk])
    rw [List.foldl_cons, hnew, if_neg Bool.false_ne_true, ih (acc ++ [a]) (by simpa using hacc)]
    simp

/-- An element's text reads as the element when its content reads as its children: the start tag
opens it, the children are read into it, and the end tag closes it. -/
theorem readTokens_element {sp t : String} (hname : NameReads sp t) {as : List Attr}
    (hattrs : ∀ a ∈ as, AttrWritable a) (hnodup : (as.map fun a => (a.space, a.key)).Nodup)
    {body : List Char} {cs : List Node}
    (hbody : ∀ input fuel st rest, (∀ c ∈ rest.head?, c = '<') →
      readTokens input (tokenCounts cs + fuel) st (body ++ rest) =
        readTokens input fuel (cs.foldl Stack.push st) rest)
    (input : List Char) (fuel : Nat) (st : Stack) (rest : List Char) :
    readTokens input (tokenCount (.elem sp t as cs) + fuel) st (elementText sp t as body ++ rest) =
      readTokens input fuel (st.push (.elem sp t as cs)) rest := by
  have hopen := nextToken_start .canonicalStyle hname hattrs
    (fun _ _ c _ => by simpa using quotedReadably_attr c) false
    (body ++ '<' :: '/' :: ((fullName sp t).toList ++ '>' :: rest))
  have hstart : readTokens input (tokenCount (.elem sp t as cs) + fuel) st
      (elementText sp t as body ++ rest) =
      readTokens input (tokenCounts cs + (fuel + 1)) ⟨⟨sp, t, as, []⟩ :: st.open_, st.top⟩
        (body ++ '<' :: '/' :: ((fullName sp t).toList ++ '>' :: rest)) := by
    rw [show tokenCount (.elem sp t as cs) + fuel = tokenCounts cs + (fuel + 1) + 1 by
      simp only [tokenCount]; omega]
    apply readTokens_step (by simpa only [elementText, tagEnd, List.append_assoc, List.cons_append,
      List.nil_append, Bool.false_eq_true, if_false] using hopen)
    simp [Stack.step, mergeAttrs_of_nodup hnodup]
  rw [hstart, hbody input (fuel + 1) _ _ (by simp), foldl_push_open]
  apply readTokens_step (nextToken_stop hname rest)
  simp [Stack.step, OpenElement.close]

mutual
/-- Reading a written node adds it where the reader stands; the text after it does not
matter, unless the node is character data, which must not run on into more. -/
theorem readTokens_node : ∀ (n : Node) (input : List Char) (fuel : Nat) (st : Stack)
    (rest : List Char), WritableNode n → JoinedNode n →
    (n.isText = true → ∀ c ∈ rest.head?, c = '<') →
    readTokens input (tokenCount n + fuel) st ((renderNode .canonicalStyle n).toList ++ rest) =
      readTokens input fuel (st.push n) rest
  | .elem sp t as cs, input, fuel, st, rest, hw, hj, _ => by
    obtain ⟨hname, hattrs, hnodup, hcs⟩ := hw
    rw [renderNode_elem_toList]
    exact readTokens_element hname hattrs hnodup
      (fun input fuel st rest hrest => readTokens_nodes cs input fuel st rest hcs hj hrest)
      input fuel st rest
  | .text d, input, fuel, st, rest, hw, hj, hrest => by
    simp only [tokenCount]
    rw [Nat.add_comm]
    exact readTokens_step (nextToken_text hj.1 hj.2 (hrest rfl)) rfl
  | .comment d, input, fuel, st, rest, hw, _, _ => by
    simp only [tokenCount]
    rw [Nat.add_comm]
    exact readTokens_step (nextToken_comment hw rest) rfl
  | .instruction t b, input, fuel, st, rest, hw, _, _ => by
    simp only [tokenCount]
    rw [Nat.add_comm]
    exact readTokens_step (nextToken_instruction hw rest) rfl
  | .directive d, input, fuel, st, rest, hw, _, _ => by
    simp only [tokenCount]
    rw [Nat.add_comm]
    exact readTokens_step (nextToken_directive hw rest) rfl
/-- Reading written nodes adds them in order where the reader stands. -/
theorem readTokens_nodes : ∀ (ns : List Node) (input : List Char) (fuel : Nat) (st : Stack)
    (rest : List Char), WritableNodes ns → JoinedNodes ns → (∀ c ∈ rest.head?, c = '<') →
    readTokens input (tokenCounts ns + fuel) st ((renderNodes .canonicalStyle ns).toList ++ rest) =
      readTokens input fuel (ns.foldl Stack.push st) rest
  | [], input, fuel, st, rest, _, _, _ => by simp [tokenCounts, renderNodes]
  | n :: ns, input, fuel, st, rest, hw, hj, hrest => by
    obtain ⟨hn, hns⟩ := hw
    obtain ⟨hjn, hnext, hjns⟩ := hj
    -- character data is followed by markup: the next node is no character data
    have hafter : n.isText = true →
        ∀ c ∈ ((renderNodes .canonicalStyle ns).toList ++ rest).head?, c = '<' := by
      intro htext c hc
      cases ns with
      | nil => exact hrest c (by simpa [renderNodes] using hc)
      | cons m ms =>
        have hm := renderNode_head .canonicalStyle (hnext htext m rfl)
        obtain ⟨x, xs, hx⟩ : ∃ x xs, (renderNode .canonicalStyle m).toList = x :: xs := by
          cases h : (renderNode .canonicalStyle m).toList with
          | nil => simp [h] at hm
          | cons x xs => exact ⟨x, xs, rfl⟩
        simp_all [renderNodes]
    rw [renderNodes, String.toList_append, List.append_assoc, tokenCounts, Nat.add_assoc,
      readTokens_node n input _ st _ hn hjn hafter, readTokens_nodes ns input fuel _ rest hns hjns hrest]
    rfl
end

/-! ## Joining character data -/

theorem escape_append (m : Escape) (s t : String) : escape m (s ++ t) = escape m s ++ escape m t := by
  simp [escape, String.join_append]

theorem renderNodes_consText (d : String) (ns : List Node) :
    renderNodes .canonicalStyle (consText d ns) =
      renderNode .canonicalStyle (.text d) ++ renderNodes .canonicalStyle ns := by
  by_cases hd : d = ""
  · subst hd
    cases ns with
    | nil => simp [consText, renderNodes, renderNode, escape]
    | cons n ns => cases n <;> simp [consText, renderNodes, renderNode, escape]
  · cases ns with
    | nil => simp [consText, renderNodes, hd]
    | cons n ns =>
      cases n <;> simp [consText, renderNodes, renderNode, hd, escape_append, String.append_assoc]

theorem writable_consText (d : String) {ns : List Node} (h : WritableNodes ns) :
    WritableNodes (consText d ns) := by
  cases ns with
  | nil => by_cases he : d = "" <;> simp_all [consText, WritableNodes, WritableNode]
  | cons n ns =>
    cases n with
    | text e => exact ⟨trivial, h.2⟩
    | _ => by_cases he : d = "" <;> simp_all [consText, WritableNodes, WritableNode]

theorem joined_consText {d : String} (hd : ∀ c ∈ d.toList, isXmlChar c = true) {ns : List Node}
    (h : JoinedNodes ns) : JoinedNodes (consText d ns) := by
  cases ns with
  | nil => by_cases he : d = "" <;> simp_all [consText, JoinedNodes, JoinedNode, Node.isText]
  | cons n ns =>
    cases n with
    | text e =>
      simp only [JoinedNodes, JoinedNode, Node.isText] at h
      simp only [consText, JoinedNodes, JoinedNode, Node.isText, String.toList_append,
        List.mem_append]
      exact ⟨⟨by simp [h.1.1], fun c hc => hc.elim (hd c) (h.1.2 c)⟩, h.2.1, h.2.2⟩
    | _ => by_cases he : d = "" <;> simp_all [consText, JoinedNodes, JoinedNode, Node.isText]

/-- In canonical style an element's text depends on its children only through theirs. -/
theorem renderNode_elem_congr {cs cs' : List Node} (sp t : String) (as : List Attr)
    (h : renderNodes .canonicalStyle cs = renderNodes .canonicalStyle cs') :
    renderNode .canonicalStyle (.elem sp t as cs) = renderNode .canonicalStyle (.elem sp t as cs') := by
  rw [← String.toList_inj, renderNode_elem_toList, renderNode_elem_toList, h]

mutual
theorem renderNodes_joinNode : ∀ (n : Node) (ns : List Node),
    renderNodes .canonicalStyle (joinNode n ns) =
      renderNode .canonicalStyle n ++ renderNodes .canonicalStyle ns
  | .elem sp t as cs, ns => by
    rw [joinNode, renderNodes, renderNode_elem_congr sp t as (renderNodes_joinTexts cs)]
  | .text d, ns => by
    rw [joinNode, renderNodes_consText]
    simp [renderNode, escape_readableText]
  | .comment _, _ => rfl
  | .instruction _ _, _ => rfl
  | .directive _, _ => rfl
/-- Joining character data does not change the written text. -/
theorem renderNodes_joinTexts : ∀ ns : List Node,
    renderNodes .canonicalStyle (joinTexts ns) = renderNodes .canonicalStyle ns
  | [] => rfl
  | n :: ns => by rw [joinTexts, renderNodes_joinNode, renderNodes_joinTexts ns, renderNodes]
end

mutual
theorem writable_joinNode : ∀ (n : Node) (ns : List Node), WritableNode n → WritableNodes ns →
    WritableNodes (joinNode n ns)
  | .elem sp t as cs, ns, hn, hns => by
    obtain ⟨h1, h2, h3, hcs⟩ := hn
    exact ⟨⟨h1, h2, h3, writable_joinTexts cs hcs⟩, hns⟩
  | .text d, ns, _, hns => writable_consText _ hns
  | .comment _, _, hn, hns => ⟨hn, hns⟩
  | .instruction _ _, _, hn, hns => ⟨hn, hns⟩
  | .directive _, _, hn, hns => ⟨hn, hns⟩
theorem writable_joinTexts : ∀ ns : List Node, WritableNodes ns → WritableNodes (joinTexts ns)
  | [], _ => trivial
  | n :: ns, ⟨hn, hns⟩ => writable_joinNode n _ hn (writable_joinTexts ns hns)
end

mutual
theorem joined_joinNode : ∀ (n : Node) (ns : List Node), JoinedNodes ns →
    JoinedNodes (joinNode n ns)
  | .elem sp t as cs, ns, hns => ⟨joined_joinTexts cs, by simp [Node.isText], hns⟩
  | .text d, ns, hns => joined_consText (isXmlChar_readableText d) hns
  | .comment _, _, hns => ⟨trivial, by simp [Node.isText], hns⟩
  | .instruction _ _, _, hns => ⟨trivial, by simp [Node.isText], hns⟩
  | .directive _, _, hns => ⟨trivial, by simp [Node.isText], hns⟩
/-- Joined character data is as reading gives it. -/
theorem joined_joinTexts : ∀ ns : List Node, JoinedNodes (joinTexts ns)
  | [] => trivial
  | n :: ns => joined_joinNode n _ (joined_joinTexts ns)
end

mutual
theorem tokenCount_le : ∀ n : Node, JoinedNode n →
    tokenCount n ≤ (renderNode .canonicalStyle n).toList.length
  | .elem sp t as cs, hj => by
    have := tokenCounts_le cs hj
    simp only [tokenCount, renderNode_elem_toList, List.length_cons, List.length_append]
    omega
  | .text d, hj => by
    obtain ⟨c, d', hcd⟩ : ∃ c d', d.toList = c :: d' := by
      cases h : d.toList with
      | nil => exact absurd (String.toList_eq_nil_iff.1 h) hj.1
      | cons c d' => exact ⟨c, d', rfl⟩
    obtain ⟨e, es, he, -⟩ := (writtenReadably_text c).head
    simp [tokenCount, renderNode_text_toList, hcd, he]
  | .comment d, _ => by simp [tokenCount, renderNode_comment_toList]
  | .instruction t b, _ => by simp [tokenCount, renderNode_instruction_toList]
  | .directive d, _ => by simp [tokenCount, renderNode_directive_toList]
/-- Each token takes at least one character. -/
theorem tokenCounts_le : ∀ ns : List Node, JoinedNodes ns →
    tokenCounts ns ≤ (renderNodes .canonicalStyle ns).toList.length
  | [], _ => by simp [tokenCounts]
  | n :: ns, ⟨hn, _, hns⟩ => by
    have := tokenCount_le n hn
    have := tokenCounts_le ns hns
    simp only [tokenCounts, renderNodes, String.toList_append, List.length_append]
    omega
end

/-! ## Documents -/

/-- Written nodes read back as they were, with their character data joined. -/
theorem readNodes_renderNodes {ns : List Node} (h : WritableNodes ns) :
    readNodes (renderNodes .canonicalStyle ns) = .ok (joinTexts ns) := by
  have hw := writable_joinTexts ns h
  have hj := joined_joinTexts ns
  have hle := tokenCounts_le _ hj
  rw [← renderNodes_joinTexts ns]
  unfold readNodes
  obtain ⟨k, hk⟩ : ∃ k, (renderNodes .canonicalStyle (joinTexts ns)).toList.length + 1 =
      tokenCounts (joinTexts ns) + (k + 1) :=
    ⟨(renderNodes .canonicalStyle (joinTexts ns)).toList.length - tokenCounts (joinTexts ns),
      by omega⟩
  have hread := readTokens_nodes (joinTexts ns) (renderNodes .canonicalStyle (joinTexts ns)).toList
    (k + 1) ⟨[], []⟩ [] hw hj (by simp)
  rw [List.append_nil] at hread
  simp only
  rw [hk, hread, foldl_push_top, readTokens_nil rfl]
  simp

/-- An element as reading its written text gives it back: its character data joined at every
level. -/
def Element.joined (e : Element) : Element := { e with children := joinTexts e.children }

/-- The body of the declaration that can open a document. -/
def declarationBody : String := "version=\"1.0\" encoding=\"UTF-8\""

theorem declaration_eq :
    declaration = renderNode .canonicalStyle (.instruction "xml" declarationBody) := by
  simp [declaration, renderNode, declarationBody]

theorem declaration_writable : InstructionWritable "xml" declarationBody := by
  refine ⟨by decide, fun h => ?_, ?_, fun _ => .inr (by decide +kernel)⟩
  · -- the body holds no `?`
    have := h.subset (by simp : '?' ∈ ['?', '>'])
    simp [declarationBody] at this
  · simp [declarationBody, isSpace]

/-- A written document reads back as its element, with or without the declaration. -/
theorem readRoot_serialize {e : Element} (h : WritableNode e.toNode) (withDeclaration : Bool) :
    readRoot (serialize e withDeclaration) = .ok (some e.joined) := by
  cases withDeclaration with
  | false =>
    have hread := @readNodes_renderNodes [e.toNode] ⟨h, trivial⟩
    simp only [renderNodes, String.append_empty] at hread
    simp only [readRoot, serialize, Element.render, Bool.false_eq_true, if_false, String.empty_append,
      hread]
    simp [joinTexts, joinNode, Element.toNode, rootOf, Node.element?, Element.joined]
  | true =>
    have hread := @readNodes_renderNodes [.instruction "xml" declarationBody, e.toNode]
      ⟨declaration_writable, h, trivial⟩
    simp only [renderNodes, String.append_empty] at hread
    simp only [readRoot, serialize, Element.render, if_true, declaration_eq, hread]
    simp [joinTexts, joinNode, Element.toNode, rootOf, Element.joined]
    rfl

end EInvoice.Xml
