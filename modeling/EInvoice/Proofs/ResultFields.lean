import EInvoice.Proofs.PlainWriting
import EInvoice.Proofs.Dialect
import Mathlib

/-!
# Decoding result fields

A response's result element is read into a record after a detour: it is detached from the
envelope with the namespace declarations of its ancestors copied onto it, written out in plain
style and read again (`Envelope.resultFields`). The record's fields are read from what the second
reading gives.

The detour is faithful when no character data or attribute value of the response holds a carriage
return (`result_fields_faithful`): the detached element can be written and read again, as every
tree that reading gives can; its plain writing reads back as the element with its character data
joined; and every field a result record reads (a text field, a nested record, a list of processing
messages) is the same on joined children (`Rejoined`).

A carriage return breaks it. One written as a reference reaches the element, plain writing leaves
it as it is, and the second reading turns it into a line feed (`carriageReturn_message_lost`).
-/

namespace EInvoice.Soap

open EInvoice.Xml EInvoice.Text

/-! ## Where the result element stands -/

/-- A response read in a dialect has its body among the child elements of its root. -/
theorem readAs_body {v : Version} {raw : String} {e : Envelope} (h : Envelope.readAs v raw = .ok e) :
    e.body ∈ e.root.childElements := by
  unfold Envelope.readAs at h
  simp only [bind, Except.bind, pure, Except.pure] at h
  split at h
  · cases h
  · split at h <;> try cases h
    split at h
    · cases h
    · split at h
      · cases h
      · split at h
        · rename_i body hbody
          cases h
          exact List.mem_of_find?_eq_some hbody
        · cases h

theorem Envelope.result_mem {e : Envelope} {name : String} {el : Element}
    (h : e.result name = some el) : el ∈ e.body.childElements :=
  List.mem_of_find?_eq_some h

/-! ## The detached result element -/

/-- One step of detaching: copy a namespace declaration of an ancestor that the element does not
make itself. -/
def copyDeclaration (c : Element) (a : Attr) : Element :=
  if a.isDeclaration ∧ (c.selectAttr a.fullKey).isNone then c.setAttr a.fullKey a.value else c

theorem Envelope.detach_eq (e : Envelope) (el : Element) :
    e.detach el = [e.body, e.root].foldl (fun c p => p.attrs.foldl copyDeclaration c) el := rfl

/-- A declaration's name splits back into its prefix and local name. -/
theorem splitName_declaration {a : Attr} (h : a.isDeclaration = true) :
    splitName a.fullKey = (a.space, a.key) := by
  obtain ⟨sp, k, v⟩ := a
  simp only [Attr.isDeclaration, Bool.or_eq_true, beq_iff_eq, Bool.and_eq_true,
    String.isEmpty_iff] at h
  rcases h with rfl | ⟨rfl, rfl⟩
  · simp [Attr.fullKey, fullName, splitName, List.span_eq_takeWhile_dropWhile]
  · simp [Attr.fullKey, fullName, splitName]

/-- Copying a declaration leaves the element as it is, or adds the declaration at the end when no
attribute of the element has its name. -/
theorem copyDeclaration_cases (c : Element) (a : Attr) :
    copyDeclaration c a = c ∨ (copyDeclaration c a = { c with attrs := c.attrs ++ [a] } ∧
      (a.space, a.key) ∉ c.attrs.map fun b => (b.space, b.key)) := by
  unfold copyDeclaration
  split
  · rename_i h
    obtain ⟨hdecl, hnone⟩ := h
    have hsplit := splitName_declaration hdecl
    -- no attribute of the element answers to the declaration's name
    have hfree : ∀ b ∈ c.attrs, ¬(b.space = a.space ∧ b.key = a.key) := by
      rintro b hb ⟨hs, hk⟩
      simp only [Element.selectAttr, hsplit, Option.isNone_iff_eq_none, List.find?_eq_none] at hnone
      exact hnone b hb (by simp [spaceMatches, hs, hk])
    refine .inr ⟨?_, ?_⟩
    · have hany : (c.attrs.any fun b => b.space == a.space && b.key == a.key) = false := by
        simpa using hfree
      simp [Element.setAttr, hsplit, hany]
    · simp only [List.mem_map, not_exists, not_and, Prod.mk.injEq]
      exact fun b hb hs hk => hfree b hb ⟨hs, hk⟩
  · exact .inl rfl

/-- Copying declarations keeps the element's name and children; every attribute is the
element's own or a copied one, and no attribute name comes twice when none did. -/
theorem foldl_copyDeclaration (ps : List Attr) (c : Element) :
    (ps.foldl copyDeclaration c).space = c.space ∧ (ps.foldl copyDeclaration c).tag = c.tag ∧
    (ps.foldl copyDeclaration c).children = c.children ∧
    (∀ a ∈ (ps.foldl copyDeclaration c).attrs, a ∈ c.attrs ∨ a ∈ ps) ∧
    ((c.attrs.map fun b => (b.space, b.key)).Nodup →
      ((ps.foldl copyDeclaration c).attrs.map fun b => (b.space, b.key)).Nodup) := by
  induction ps generalizing c with
  | nil => simp
  | cons a ps ih =>
    obtain ⟨h1, h2, h3, h4, h5⟩ := ih (copyDeclaration c a)
    rcases copyDeclaration_cases c a with hc | ⟨hc, hfresh⟩
    · rw [hc] at h1 h2 h3 h4 h5
      rw [List.foldl_cons, hc]
      refine ⟨h1, h2, h3, fun b hb => ?_, h5⟩
      rcases h4 b hb with hb | hb
      · exact .inl hb
      · exact .inr (List.mem_cons_of_mem _ hb)
    · rw [hc] at h1 h2 h3 h4 h5
      rw [List.foldl_cons, hc]
      refine ⟨h1, h2, h3, fun b hb => ?_, fun hn => h5 ?_⟩
      · rcases h4 b hb with hb | hb
        · rcases List.mem_append.1 hb with hb | hb
          · exact .inl hb
          · simp only [List.mem_singleton] at hb
            exact .inr (hb ▸ List.mem_cons_self)
        · exact .inr (List.mem_cons_of_mem _ hb)
      · simp only [List.map_append, List.map_cons, List.map_nil]
        exact List.nodup_append.2 ⟨hn, by simp, by simpa using hfresh⟩

/-- The detached result element: the element with some declarations of its body and root copied
onto it, none twice. -/
theorem Envelope.detach_spec (e : Envelope) (el : Element) :
    (e.detach el).space = el.space ∧ (e.detach el).tag = el.tag ∧
    (e.detach el).children = el.children ∧
    (∀ a ∈ (e.detach el).attrs, a ∈ el.attrs ∨ a ∈ e.body.attrs ∨ a ∈ e.root.attrs) ∧
    ((el.attrs.map fun b => (b.space, b.key)).Nodup →
      ((e.detach el).attrs.map fun b => (b.space, b.key)).Nodup) := by
  obtain ⟨b1, b2, b3, b4, b5⟩ := foldl_copyDeclaration e.body.attrs el
  obtain ⟨r1, r2, r3, r4, r5⟩ := foldl_copyDeclaration e.root.attrs (e.body.attrs.foldl copyDeclaration el)
  rw [Envelope.detach_eq]
  simp only [List.foldl_cons, List.foldl_nil]
  refine ⟨r1.trans b1, r2.trans b2, r3.trans b3, fun a ha => ?_, fun hn => r5 (b5 hn)⟩
  rcases r4 a ha with ha | ha
  · rcases b4 a ha with ha | ha
    · exact .inl ha
    · exact .inr (.inl ha)
  · exact .inr (.inr ha)


/-- The detached result element of a response as reading gives it can be written and read again,
and its characters are those of the element and its ancestors. -/
theorem Envelope.detach_rereadable {e : Envelope} {el : Element} {p : Char → Prop}
    (hel : el.toNode.Rereadable) (hb : e.body.toNode.Rereadable) (hr : e.root.toNode.Rereadable)
    (hpel : CharsIn p el.toNode) (hpb : CharsIn p e.body.toNode) (hpr : CharsIn p e.root.toNode) :
    (e.detach el).toNode.Rereadable ∧ CharsIn p (e.detach el).toNode := by
  obtain ⟨h1, h2, h3, h4, h5⟩ := e.detach_spec el
  obtain ⟨⟨hname, hattrs, hnodup⟩, hcs⟩ := Node.rereadable_elem_iff.1 hel
  have hwb := (Node.rereadable_elem_iff.1 hb).1.2.1
  have hwr := (Node.rereadable_elem_iff.1 hr).1.2.1
  -- every attribute is the element's own or a declaration of its body or root
  have hsrc : ∀ a ∈ (e.detach el).attrs, AttrWritable a ∧ ∀ c ∈ a.value.toList, p c := by
    intro a ha
    rcases h4 a ha with ha | ha | ha
    · exact ⟨hattrs a ha, hpel.1 a ha⟩
    · exact ⟨hwb a ha, hpb.1 a ha⟩
    · exact ⟨hwr a ha, hpr.1 a ha⟩
  refine ⟨Node.rereadable_elem_iff.2 ⟨⟨h1 ▸ h2 ▸ hname, fun a ha => (hsrc a ha).1, h5 hnodup⟩,
    h3 ▸ hcs⟩, fun a ha => (hsrc a ha).2, ?_⟩
  rw [show (e.detach el).children = el.children from h3]
  exact hpel.2

/-! ## Reading fields from joined nodes -/

/-- The character data of a node, if it is character data. -/
def Node.text? : Node → Option String
  | .text d => some d
  | _ => none

theorem directText_eq (e : Element) : directText e = String.join (e.children.filterMap Node.text?) := rfl

theorem join_text?_consText (d : String) (ns : List Node) :
    String.join ((consText d ns).filterMap Node.text?) = d ++ String.join (ns.filterMap Node.text?) := by
  cases ns with
  | nil => by_cases hd : d = "" <;> simp [consText, hd, Node.text?]
  | cons n ns =>
    cases n <;> by_cases hd : d = "" <;> simp [consText, hd, Node.text?, String.append_assoc]

/-- Joining character data keeps all of it, as reading gives it. -/
theorem join_text?_joinTexts (ns : List Node) :
    String.join ((joinTexts ns).filterMap Node.text?) = readableText (String.join (ns.filterMap Node.text?)) := by
  induction ns with
  | nil => rfl
  | cons n ns ih =>
    cases n with
    | text d => simp [joinTexts, joinNode, join_text?_consText, ih, Node.text?]
    | elem sp t as cs => simp [joinTexts, joinNode_elem, ih, Node.text?, List.filterMap_cons]
    | _ => simp [joinTexts, joinNode, ih, Node.text?, List.filterMap_cons]

theorem directText_joined (e : Element) : directText e.joined = readableText (directText e) := by
  simp only [directText_eq, Element.joined, join_text?_joinTexts]

theorem named_joinTexts (cs : List Node) (n : String) :
    named (joinTexts cs) n = (named cs n).map Element.joined := by
  simp only [named, filterMap_element?_joinTexts, List.filter_map]
  rfl

theorem named_append (ns ms : List Node) (n : String) :
    named (ns ++ ms) n = named ns n ++ named ms n := by
  simp [named, List.filterMap_append, List.filter_append]

theorem named_flatMap {α : Type} (l : List α) (f : α → List Node) (n : String) :
    named (l.flatMap f) n = l.flatMap fun x => named (f x) n := by
  induction l with
  | nil => rfl
  | cons x l ih => simp [List.flatMap_cons, named_append, ih]

theorem mem_named {cs : List Node} {n : String} {e : Element} (h : e ∈ named cs n) :
    e.toNode ∈ cs ∧ e.tag = n := by
  obtain ⟨hmem, htag⟩ := List.mem_filter.1 h
  obtain ⟨m, hm, he⟩ := List.mem_filterMap.1 hmem
  refine ⟨?_, by simpa using htag⟩
  cases m <;> simp only [Node.element?, reduceCtorEq, Option.some.injEq] at he
  subst he
  exact hm

section Chars

variable {p : Char → Prop}

theorem charsInAll_named {cs : List Node} (h : CharsInAll p cs) {n : String} {e : Element}
    (he : e ∈ named cs n) : CharsInAll p e.children :=
  (charsInAll_iff.1 h _ (mem_named he).1).2

theorem charsInAll_directText {cs : List Node} (h : CharsInAll p cs) :
    ∀ c ∈ (String.join (cs.filterMap Node.text?)).toList, p c := by
  intro c hc
  rw [String.toList_join] at hc
  obtain ⟨l, hl, hc⟩ := List.mem_flatten.1 hc
  obtain ⟨d, hd, rfl⟩ := List.mem_map.1 hl
  obtain ⟨m, hm, hd⟩ := List.mem_filterMap.1 hd
  cases m <;> simp only [Node.text?, reduceCtorEq, Option.some.injEq] at hd
  subst hd
  exact charsInAll_iff.1 h _ hm c hc

theorem charsInAll_recordField {cs : List Node} (h : CharsInAll p cs) (n : String) :
    CharsInAll p (recordField cs n) := by
  refine charsInAll_iff.2 fun m hm => ?_
  obtain ⟨e, he, hm⟩ := List.mem_flatMap.1 hm
  exact charsInAll_iff.1 (charsInAll_named h he) m hm

end Chars

/-- Nodes as a second reading gives them back: the elements of every name come back joined, and
the character data of the nodes first read holds only characters that XML allows. -/
structure Rejoined (fs cs : ResultNodes) : Prop where
  named_eq : ∀ n, named fs n = (named cs n).map Element.joined
  chars : CharsInAll (fun c => isXmlChar c = true) cs

theorem rejoined_joinTexts {cs : List Node} (h : CharsInAll (fun c => isXmlChar c = true) cs) :
    Rejoined (joinTexts cs) cs :=
  ⟨named_joinTexts cs, h⟩

namespace Rejoined

variable {fs cs : ResultNodes}

/-- A text field reads the same from nodes read back. -/
theorem textField (h : Rejoined fs cs) (n : String) : Soap.textField fs n = Soap.textField cs n := by
  unfold Soap.textField
  rw [h.named_eq, List.getLast?_map]
  cases hl : (named cs n).getLast? with
  | none => rfl
  | some e =>
    simp only [Option.map_some]
    rw [directText_joined, directText_eq]
    exact readableText_of_chars (charsInAll_directText (charsInAll_named h.chars (List.mem_of_getLast? hl)))

/-- A nested record reads from nodes read back. -/
theorem recordField (h : Rejoined fs cs) (n : String) :
    Rejoined (Soap.recordField fs n) (Soap.recordField cs n) := by
  refine ⟨fun m => ?_, charsInAll_recordField h.chars n⟩
  simp only [Soap.recordField, h.named_eq, List.flatMap_map, named_flatMap, Element.joined,
    named_joinTexts, ← List.map_flatMap]

/-- Each element of a name reads the same once joined. -/
theorem joined (h : Rejoined fs cs) {n : String} {e : Element} (he : e ∈ named cs n) :
    Rejoined e.joined.children e.children :=
  rejoined_joinTexts (charsInAll_named h.chars he)

theorem readMessages (h : Rejoined fs cs) : Soap.readMessages fs = Soap.readMessages cs := by
  unfold Soap.readMessages
  rw [h.named_eq, List.map_map]
  refine List.map_congr_left fun e he => ?_
  simp only [Function.comp_apply, (h.joined he).textField]

theorem rucResult (h : Rejoined fs cs) : RucResult.ofFields fs = RucResult.ofFields cs := by
  have hr := h.recordField "xContRUC"
  simp only [RucResult.ofFields, h.textField, hr.textField, h.named_eq, List.isEmpty_map]

theorem documentProtocol (h : Rejoined fs cs) :
    DocumentProtocol.ofFields fs = DocumentProtocol.ofFields cs := by
  simp only [DocumentProtocol.ofFields, h.textField, h.readMessages]

theorem lotResult (h : Rejoined fs cs) : LotResult.ofFields fs = LotResult.ofFields cs := by
  simp only [LotResult.ofFields, h.textField]

theorem lotQueryResult (h : Rejoined fs cs) : LotQueryResult.ofFields fs = LotQueryResult.ofFields cs := by
  simp only [LotQueryResult.ofFields, h.textField, h.named_eq, List.map_map, LotQueryResult.mk.injEq,
    true_and]
  refine List.map_congr_left fun e he => ?_
  simp only [Function.comp_apply, (h.joined he).textField, (h.joined he).readMessages]

theorem documentInfoResult (h : Rejoined fs cs) (written : ResultNodes) :
    DocumentInfoResult.ofFields fs written = DocumentInfoResult.ofFields cs written := by
  simp only [DocumentInfoResult.ofFields, h.textField]

end Rejoined


/-! ## Decoding a result -/

/-- Decoding a response reads every result field as the character data of the result element as
the response gives it, when no character data or attribute value of the response holds a carriage
return. The result element is written out in plain style, with its ancestors' declarations copied
onto it, and read again: the second reading succeeds and gives its children back with their
character data joined, from which every result record reads as from the element itself. -/
theorem result_fields_faithful {raw : String} {e : Envelope} {name : String} {el : Element}
    (h : Envelope.read raw = .ok e) (hel : e.result name = some el)
    (hcr : CharsIn (· ≠ '\r') e.root.toNode) :
    ∃ fs, e.resultFields name = some (.ok (fs, el.children)) ∧
      (∀ n, textField fs n = textField el.children n) ∧
      RucResult.ofFields fs = RucResult.ofFields el.children ∧
      DocumentProtocol.ofFields fs = DocumentProtocol.ofFields el.children ∧
      LotResult.ofFields fs = LotResult.ofFields el.children ∧
      LotQueryResult.ofFields fs = LotQueryResult.ofFields el.children ∧
      DocumentInfoResult.ofFields fs el.children = DocumentInfoResult.ofFields el.children el.children := by
  obtain ⟨v, hv⟩ : ∃ v, Envelope.readAs v raw = .ok e := by
    rcases (read_eq_ok_iff raw e).1 h with h | h
    exacts [⟨_, h⟩, ⟨_, h⟩]
  -- the root, the body and the result element are as reading gives them, without carriage returns
  have hroot := readRoot_rereadable (readAs_root hv).2.1
  have hbody := readAs_body hv
  have hmem := Envelope.result_mem hel
  have hcb := hcr.child hbody
  obtain ⟨hw, hc⟩ := Envelope.detach_rereadable ((hroot.child hbody).child hmem)
    (hroot.child hbody) hroot (hcb.child hmem) hcb hcr
  -- so the detached element reads back from its plain writing
  have hfields : e.resultFields name = some (.ok (joinTexts el.children, el.children)) := by
    simp only [Envelope.resultFields, hel, Option.map_some, readRoot_renderPlain hw.1 hc,
      Element.joined, (e.detach_spec el).2.2.1]
  have hj : Rejoined (joinTexts el.children) el.children :=
    rejoined_joinTexts ((hroot.child hbody).child hmem).2.2
  exact ⟨_, hfields, hj.textField, hj.rucResult, hj.documentProtocol, hj.lotResult,
    hj.lotQueryResult, hj.documentInfoResult _⟩

/-- A RUC lookup answer whose message holds a tab, written as a reference. -/
def tabResponse : String :=
  "<Envelope xmlns=\"http://www.w3.org/2003/05/soap-envelope\"><Body><rResEnviConsRUC>" ++
    "<dMsgRes>a&#x9;b</dMsgRes></rResEnviConsRUC></Body></Envelope>"

/-- The tab of the message is decoded as it stands in the response. -/
theorem tabResponse_message :
    ∃ e el, Envelope.read tabResponse = .ok e ∧ e.result rucResultName = some el ∧
      CharsIn (· ≠ '\r') e.root.toNode ∧ textField el.children "dMsgRes" = "a\tb" ∧
      ∃ fs, e.resultFields rucResultName = some (.ok (fs, el.children)) ∧
        (RucResult.ofFields fs).message = "a\tb" := by
  have hcomp : ((Envelope.readAs .soap12 tabResponse).toOption.bind fun e =>
      (e.result rucResultName).map fun el =>
        (decide (CharsIn (· ≠ '\r') e.root.toNode), textField el.children "dMsgRes")) =
      some (true, "a\tb") := by
    decide +kernel
  simp only [Option.bind_eq_some_iff, Option.map_eq_some_iff, Prod.mk.injEq,
    decide_eq_true_eq] at hcomp
  obtain ⟨e, he, el, hel, hcr, htext⟩ := hcomp
  have hread := (read_eq_ok_iff tabResponse e).2 (.inl (Except.eq_ok_of_toOption he))
  obtain ⟨fs, hfs, -, hruc, -⟩ := result_fields_faithful hread hel hcr
  refine ⟨e, el, hread, hel, hcr, htext, fs, hfs, ?_⟩
  rw [hruc, ← htext]
  rfl

/-- A RUC lookup answer whose message holds a carriage return, written as a reference. -/
def carriageReturnResponse : String :=
  "<Envelope xmlns=\"http://www.w3.org/2003/05/soap-envelope\"><Body><rResEnviConsRUC>" ++
    "<dMsgRes>a&#xD;b</dMsgRes></rResEnviConsRUC></Body></Envelope>"

/-- The carriage return of a message reaches the element as the response gives it, but the
decoded message has a line feed in its place: plain writing leaves the carriage return as it is,
and the second reading turns it into a line feed. -/
theorem carriageReturn_message_lost :
    ∃ e el fs, Envelope.read carriageReturnResponse = .ok e ∧ e.result rucResultName = some el ∧
      e.resultFields rucResultName = some (.ok fs) ∧ textField el.children "dMsgRes" = "a\rb" ∧
      (RucResult.ofFields fs.1).message = "a\nb" := by
  have hcomp : ((Envelope.readAs .soap12 carriageReturnResponse).toOption.bind fun e =>
      (e.result rucResultName).bind fun el => ((e.resultFields rucResultName).bind (·.toOption)).map
        fun fs => (textField el.children "dMsgRes", (RucResult.ofFields fs.1).message)) =
      some ("a\rb", "a\nb") := by
    decide +kernel
  simp only [Option.bind_eq_some_iff, Option.map_eq_some_iff, Prod.mk.injEq] at hcomp
  obtain ⟨e, he, el, hel, fs, ⟨r, hr, hfs⟩, htext, hmsg⟩ := hcomp
  refine ⟨e, el, fs, (read_eq_ok_iff _ e).2 (.inl (Except.eq_ok_of_toOption he)), hel, ?_, htext,
    hmsg⟩
  rw [hr, Except.eq_ok_of_toOption hfs]

end EInvoice.Soap
