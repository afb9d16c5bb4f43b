import EInvoice.Proofs.ReadTrees
import EInvoice.Proofs.Reread
import Mathlib

/-!
# Writing in either style and reading back

A tree written in either style reads back as the same tree with its character data joined
(`readNodes_renderNodes_of`), as long as the style writes each of its characters readably
(`ReadableIn`). Canonical style writes every character readably. Plain style writes a carriage
return as it is, and reading turns it into a line feed; every other character it writes readably.
So a tree without carriage returns in its character data and attribute values reads back from its
plain writing (`readRoot_renderPlain`).

Plain style differs from canonical style in two more ways that reading does not see: an element
without children closes itself, and adjacent runs of character data, or an empty run in an
element, are written as the text they join to. The proof therefore reads nodes with the character
data still pending in front of them (`readsAs_nodes`), and text that reads as nodes is put
together piece by piece (`ReadsAs`).
-/

namespace EInvoice.Xml

/-! ## Characters -/

theorem readReference_apos (r : List Char) :
    readReference ('a' :: 'p' :: 'o' :: 's' :: ';' :: r) = .ok (['\''], 5) := by
  simp [readReference, nameByte, isName, isNameStart, isNameRest, predefinedEntity]

@[simp] theorem escape_empty (m : Escape) : escape m "" = "" := by
  simp [escape]

/-- Plain escaping writes every character but the carriage return readably: markup and quotes
as references, all else as it is. -/
theorem writtenReadably_plain {c : Char} (hc : c ≠ '\r') : WrittenReadably .plain c := by
  by_cases hs : c = '&' ∨ c = '<' ∨ c = '>' ∨ c = '\'' ∨ c = '"'
  · refine .inr ?_
    rcases hs with rfl | rfl | rfl | rfl | rfl
    · exact ⟨['a', 'm', 'p', ';'], by decide, readReference_amp⟩
    · exact ⟨['l', 't', ';'], by decide, readReference_lt⟩
    · exact ⟨['g', 't', ';'], by decide, readReference_gt⟩
    · exact ⟨['a', 'p', 'o', 's', ';'], by decide, readReference_apos⟩
    · exact ⟨['q', 'u', 'o', 't', ';'], by decide, readReference_quot⟩
  · simp only [not_or] at hs
    obtain ⟨h1, h2, h3, h4, h5⟩ := hs
    refine .inl ⟨?_, ?_⟩
    · unfold escapeChar readable
      split <;> simp_all [isXmlChar]
      split <;> simp
    · unfold readable
      split <;> simp_all

theorem quotedReadably_plain {c : Char} (hc : c ≠ '\r') : QuotedReadably .plain c := by
  rcases writtenReadably_plain hc with ⟨hplain, hlt, hamp, -, hcr⟩ | href
  · -- a quote is written as a reference, so one written as itself is no quote
    refine .inl ⟨hplain, hlt, hamp, fun hq => ?_, hcr⟩
    have hc' : c = '"' := by
      unfold readable at hq
      split at hq
      · exact hq
      · simp at hq
    subst hc'
    simp [escapeChar] at hplain
  · exact .inr href

/-- What a style writes readably, in character data and in attribute values. -/
def ReadableIn (s : Style) (c : Char) : Prop :=
  WrittenReadably s.textEscape c ∧ QuotedReadably s.valueEscape c

theorem readableIn_canonical (c : Char) : ReadableIn .canonicalStyle c := by
  simpa [ReadableIn] using ⟨writtenReadably_text c, quotedReadably_attr c⟩

theorem readableIn_plain {c : Char} (hc : c ≠ '\r') : ReadableIn .plainStyle c := by
  simpa [ReadableIn] using ⟨writtenReadably_plain hc, quotedReadably_plain hc⟩


/-! ## Text that reads as nodes -/

/-- What stands after text that reads as character data: nothing, or markup. -/
def OpensMarkup (rest : List Char) : Prop := ∀ c ∈ rest.head?, c = '<'

/-- Text that reads as the nodes `ns`, added in order where the reader stands, in front of any
text `rest` with `after rest`, in at most as many tokens as it has characters. -/
def ReadsAs (after : List Char → Prop) (s : List Char) (ns : List Node) : Prop :=
  ∃ k ≤ s.length, ∀ input fuel st rest, after rest →
    readTokens input (k + fuel) st (s ++ rest) = readTokens input fuel (ns.foldl Stack.push st) rest

namespace ReadsAs

variable {P Q : List Char → Prop}

theorem nil : ReadsAs P [] [] := ⟨0, le_rfl, fun _ _ _ _ _ => by simp⟩

/-- Text that reads as nodes, then text that reads as more nodes in front of what the first
allows after it. -/
theorem append {s t : List Char} {ns ms : List Node} (h1 : ReadsAs P s ns) (h2 : ReadsAs Q t ms)
    (hPQ : ∀ rest, Q rest → P (t ++ rest)) : ReadsAs Q (s ++ t) (ns ++ ms) := by
  obtain ⟨k1, hk1, h1⟩ := h1
  obtain ⟨k2, hk2, h2⟩ := h2
  refine ⟨k1 + k2, by simp; omega, fun input fuel st rest hrest => ?_⟩
  rw [Nat.add_assoc, List.append_assoc, h1 input _ st _ (hPQ rest hrest), h2 input fuel _ rest hrest,
    List.foldl_append]

/-- One token that adds one node. -/
theorem token {s : List Char} {t : Token} {n : Node} (hs : s ≠ [])
    (ht : ∀ rest, P rest → nextToken (s ++ rest) = .ok (some t, rest))
    (hst : ∀ st : Stack, st.step t = some (st.push n)) : ReadsAs P s [n] := by
  refine ⟨1, ?_, fun input fuel st rest hrest => ?_⟩
  · cases s with
    | nil => exact absurd rfl hs
    | cons x s => simp
  · rw [Nat.add_comm]
    exact readTokens_step (ht rest hrest) (hst st)

theorem mono {s : List Char} {ns : List Node} (h : ReadsAs P s ns) (hPQ : ∀ rest, Q rest → P rest) :
    ReadsAs Q s ns := by
  obtain ⟨k, hk, h⟩ := h
  exact ⟨k, hk, fun input fuel st rest hrest => h input fuel st rest (hPQ rest hrest)⟩

/-- A document that reads as its nodes. -/
theorem readNodes_eq {text : String} {ns : List Node} (h : ReadsAs OpensMarkup text.toList ns) :
    readNodes text = .ok ns := by
  obtain ⟨k, hk, h⟩ := h
  unfold readNodes
  obtain ⟨j, hj⟩ : ∃ j, text.toList.length + 1 = k + (j + 1) := ⟨text.toList.length - k, by omega⟩
  have hread := h text.toList (j + 1) ⟨[], []⟩ [] (by simp [OpensMarkup])
  rw [List.append_nil] at hread
  simp only
  rw [hj, hread, foldl_push_top, readTokens_nil rfl]
  simp

/-- Character data written by an escaping that writes its characters readably reads as one run
of character data, or as nothing when it is empty. -/
theorem escaped {m : Escape} {d : String} (hm : ∀ c ∈ d.toList, WrittenReadably m c) :
    ReadsAs OpensMarkup (escape m d).toList (consText (readableText d) []) := by
  by_cases hd : d = ""
  · subst hd
    simpa [consText, readableText, escape] using nil
  · rw [show consText (readableText d) [] = [.text (readableText d)] by
      simp [consText, readableText_ne_empty hd]]
    refine token ?_ (fun rest hrest => nextToken_escaped hm hd hrest) (fun _ => rfl)
    -- the run takes at least the characters written for its first character
    obtain ⟨c, d', hcd⟩ : ∃ c d', d.toList = c :: d' := by
      cases h : d.toList with
      | nil => exact absurd (String.toList_eq_nil_iff.1 h) hd
      | cons c d' => exact ⟨c, d', rfl⟩
    obtain ⟨e, es, he, -⟩ := (hm c (by simp [hcd])).head
    rw [escape_toList, hcd, List.flatMap_cons, he]
    simp

section Element

variable (s : Style) {sp t : String} {as : List Attr} (hname : NameReads sp t)
  (hattrs : ∀ a ∈ as, AttrWritable a)
  (hv : ∀ a ∈ as, ∀ c ∈ a.value.toList, QuotedReadably s.valueEscape c)
  (hnodup : (as.map fun a => (a.space, a.key)).Nodup)
include hname hattrs hv hnodup

/-- An element with a start and an end tag reads as the element when its content reads as its
children, whatever follows it. -/
theorem element {body : List Char} {cs : List Node} (hbody : ReadsAs OpensMarkup body cs) :
    ReadsAs P ('<' :: ((fullName sp t).toList ++ ((as.flatMap fun a => (renderAttr s a).toList) ++
      ('>' :: (body ++ '<' :: '/' :: ((fullName sp t).toList ++ ['>'])))))) [.elem sp t as cs] := by
  obtain ⟨k, hk, hread⟩ := hbody
  refine ⟨k + 2, by simp; omega, fun input fuel st rest _ => ?_⟩
  have hopen := nextToken_start s hname hattrs hv false
    (body ++ '<' :: '/' :: ((fullName sp t).toList ++ '>' :: rest))
  simp only [tagEnd, Bool.false_eq_true, if_false, List.cons_append, List.nil_append] at hopen
  -- the start tag opens the element, the content is read into it, the end tag closes it
  rw [show k + 2 + fuel = k + (fuel + 1) + 1 by omega]
  have hstep : st.step (.start sp t as false) = some ⟨⟨sp, t, as, []⟩ :: st.open_, st.top⟩ := by
    simp [Stack.step, mergeAttrs_of_nodup hnodup]
  rw [readTokens_step (by simpa only [List.cons_append, List.append_assoc, List.nil_append]
    using hopen) hstep]
  rw [hread input (fuel + 1) _ _ (by simp [OpensMarkup]), foldl_push_open]
  apply readTokens_step (nextToken_stop hname rest)
  simp [Stack.step, OpenElement.close]

/-- An element that closes itself reads as the element without children. -/
theorem selfClosed :
    ReadsAs P ('<' :: ((fullName sp t).toList ++ ((as.flatMap fun a => (renderAttr s a).toList) ++
      ['/', '>']))) [.elem sp t as []] :=
  token (by simp) (fun rest _ => by simpa [tagEnd] using nextToken_start s hname hattrs hv true rest)
    (fun _ => by simp [Stack.step, mergeAttrs_of_nodup hnodup, OpenElement.close])

end Element

end ReadsAs

/-! ## Joining what is read as one run -/

theorem consText_consText (a b : String) (ns : List Node) :
    consText a (consText b ns) = consText (a ++ b) ns := by
  cases ns with
  | nil => by_cases ha : a = "" <;> by_cases hb : b = "" <;> simp [consText, ha, hb]
  | cons n ns =>
    cases n with
    | text e => simp [consText, String.append_assoc]
    | _ => by_cases ha : a = "" <;> by_cases hb : b = "" <;> simp [consText, ha, hb]

@[simp] theorem consText_empty (ns : List Node) : consText "" ns = ns := by
  cases ns with
  | nil => rfl
  | cons n ns => cases n <;> simp [consText]

theorem consText_markup (d : String) {m : Node} (hm : m.isText = false) (ns : List Node) :
    consText d (m :: ns) = consText d [] ++ m :: ns := by
  cases m with
  | text e => simp [Node.isText] at hm
  | _ => by_cases hd : d = "" <;> simp [consText, hd]

/-- A node other than character data stays one node, in front of what follows. -/
theorem joinNode_markup {n : Node} (hn : n.isText = false) :
    ∃ m, m.isText = false ∧ ∀ ns, joinNode n ns = m :: ns := by
  cases n with
  | elem sp t as cs => exact ⟨_, rfl, fun ns => rfl⟩
  | text d => simp [Node.isText] at hn
  | comment d => exact ⟨_, rfl, fun ns => rfl⟩
  | instruction t b => exact ⟨_, rfl, fun ns => rfl⟩
  | directive d => exact ⟨_, rfl, fun ns => rfl⟩

/-! ## Trees written in either style -/

/-- Pending character data, then a node other than character data and the nodes after it: the
data is read as one run in front of the node's markup. -/
theorem readsAs_cons_markup {s : Style} {n : Node} (hn : n.isText = false) {pre : String}
    (hpre : ∀ c ∈ pre.toList, WrittenReadably s.textEscape c) {ns : List Node}
    (hnode : ReadsAs (fun _ => True) (renderNode s n).toList (joinNode n []))
    (hns : ReadsAs OpensMarkup (renderNodes s ns).toList (joinTexts ns)) :
    ReadsAs OpensMarkup ((escape s.textEscape pre).toList ++ (renderNodes s (n :: ns)).toList)
      (consText (readableText pre) (joinTexts (n :: ns))) := by
  obtain ⟨m, hmt, hm⟩ := joinNode_markup hn
  have hjoin : consText (readableText pre) (joinTexts (n :: ns)) =
      consText (readableText pre) [] ++ (joinNode n [] ++ joinTexts ns) := by
    rw [joinTexts, hm, hm, consText_markup _ hmt]
    rfl
  rw [hjoin, renderNodes, String.toList_append]
  refine (ReadsAs.escaped hpre).append (hnode.append hns fun _ _ => trivial) fun rest _ => ?_
  -- what follows the data opens with the node's markup
  obtain ⟨x, xs, hx⟩ : ∃ x xs, (renderNode s n).toList = x :: xs := by
    cases h : (renderNode s n).toList with
    | nil => simp [h] at hnode; exact absurd (renderNode_head s hn) (by simp [h])
    | cons x xs => exact ⟨x, xs, rfl⟩
  have hx' := renderNode_head s hn
  rw [hx, List.head?_cons, Option.some.injEq] at hx'
  simp [OpensMarkup, hx, hx']

mutual
/-- A node other than character data, written in a style that writes its characters readably,
reads as itself with its character data joined, whatever follows it. -/
theorem readsAs_node (s : Style) : ∀ (n : Node), WritableNode n → CharsIn (ReadableIn s) n →
    n.isText = false → ReadsAs (fun _ => True) (renderNode s n).toList (joinNode n [])
  | .elem sp t as cs, ⟨hname, hattrs, hnodup, hcs⟩, ⟨hv, hcc⟩, _ => by
    have hbody := readsAs_nodes s cs "" hcs hcc (by simp)
    simp only [escape, String.toList_empty, List.map, String.join_nil, List.nil_append,
      readableText_empty, consText_empty] at hbody
    have hv' : ∀ a ∈ as, ∀ c ∈ a.value.toList, QuotedReadably s.valueEscape c :=
      fun a ha c hc => (hv a ha c hc).2
    by_cases hc : cs ≠ [] ∨ s.canonical = true
    · rw [renderNode_elem_open s sp t as hc]
      exact ReadsAs.element s hname hattrs hv' hnodup hbody
    · obtain ⟨rfl, hs⟩ : cs = [] ∧ s.canonical = false := by simpa using hc
      rw [renderNode_elem_closed s sp t as hs]
      exact ReadsAs.selfClosed s hname hattrs hv' hnodup
  | .text _, _, _, h => by simp [Node.isText] at h
  | .comment d, hw, _, _ =>
    ReadsAs.token (by simp [renderNode_comment_style, renderNode_comment_toList])
      (fun rest _ => by rw [renderNode_comment_style]; exact nextToken_comment hw rest) (fun _ => rfl)
  | .instruction t b, hw, _, _ =>
    ReadsAs.token (by simp [renderNode_instruction_style, renderNode_instruction_toList])
      (fun rest _ => by rw [renderNode_instruction_style]; exact nextToken_instruction hw rest)
      (fun _ => rfl)
  | .directive d, hw, _, _ =>
    ReadsAs.token (by simp [renderNode_directive_style, renderNode_directive_toList])
      (fun rest _ => by rw [renderNode_directive_style]; exact nextToken_directive hw rest)
      (fun _ => rfl)
/-- Pending character data and nodes, written in a style that writes their characters readably,
read as the nodes with their character data joined, the pending data in front. -/
theorem readsAs_nodes (s : Style) : ∀ (ns : List Node) (pre : String), WritableNodes ns →
    CharsInAll (ReadableIn s) ns → (∀ c ∈ pre.toList, WrittenReadably s.textEscape c) →
    ReadsAs OpensMarkup ((escape s.textEscape pre).toList ++ (renderNodes s ns).toList)
      (consText (readableText pre) (joinTexts ns))
  | [], pre, _, _, hpre => by simpa [renderNodes, joinTexts] using ReadsAs.escaped hpre
  | .text d :: ns, pre, ⟨_, hw⟩, ⟨hd, hc⟩, hpre => by
    -- the data joins what is pending
    have h := readsAs_nodes s ns (pre ++ d) hw hc (by
      simp only [String.toList_append, List.mem_append]
      rintro c (hc | hc)
      exacts [hpre c hc, (hd c hc).1])
    rw [escape_append, String.toList_append, List.append_assoc, readableText_append,
      ← consText_consText] at h
    simpa [renderNodes, renderNode, joinTexts, joinNode] using h
  | .elem sp t as cs :: ns, pre, ⟨hn, hw⟩, ⟨hcn, hc⟩, hpre =>
    readsAs_cons_markup rfl hpre (readsAs_node s _ hn hcn rfl)
      (by simpa using readsAs_nodes s ns "" hw hc (by simp))
  | .comment d :: ns, pre, ⟨hn, hw⟩, ⟨hcn, hc⟩, hpre =>
    readsAs_cons_markup rfl hpre (readsAs_node s _ hn hcn rfl)
      (by simpa using readsAs_nodes s ns "" hw hc (by simp))
  | .instruction t b :: ns, pre, ⟨hn, hw⟩, ⟨hcn, hc⟩, hpre =>
    readsAs_cons_markup rfl hpre (readsAs_node s _ hn hcn rfl)
      (by simpa using readsAs_nodes s ns "" hw hc (by simp))
  | .directive d :: ns, pre, ⟨hn, hw⟩, ⟨hcn, hc⟩, hpre =>
    readsAs_cons_markup rfl hpre (readsAs_node s _ hn hcn rfl)
      (by simpa using readsAs_nodes s ns "" hw hc (by simp))
end

/-- Nodes written in a style that writes their characters readably read back as themselves, with
their character data joined. -/
theorem readNodes_renderNodes_of (s : Style) {ns : List Node} (hw : WritableNodes ns)
    (hc : CharsInAll (ReadableIn s) ns) : readNodes (renderNodes s ns) = .ok (joinTexts ns) := by
  apply ReadsAs.readNodes_eq
  simpa using readsAs_nodes s ns "" hw hc (by simp)

/-- A tree written in plain style reads back as itself with its character data joined, when no
character data or attribute value in it holds a carriage return. -/
theorem readRoot_renderPlain {e : Element} (hw : WritableNode e.toNode)
    (hcr : CharsIn (· ≠ '\r') e.toNode) : readRoot e.renderPlain = .ok (some e.joined) := by
  have hread : readNodes (renderNodes .plainStyle [e.toNode]) = .ok (joinTexts [e.toNode]) :=
    readNodes_renderNodes_of .plainStyle ⟨hw, trivial⟩
      ⟨CharsIn.mono (fun _ => readableIn_plain) hcr, trivial⟩
  simp only [renderNodes, String.append_empty] at hread
  rw [readRoot, Element.renderPlain, hread]
  rfl

end EInvoice.Xml
