import EInvoice.Proofs.LotAssembly
import EInvoice.Proofs.ReadTrees
import Mathlib

/-!
# Writing a tree again after reading it

The program writes trees with `serialize`, and reads texts back with `readRoot`. Writing the root
of a written text again gives the same text (`rewrite_serialize`) for every tree that writing
keeps (`WritableNode`), and so for every tree the program makes (`Produced`): a root read from
any text, the tree of a document built from fields, the tree of a document read from text whose
element names are names once their prefixes are dropped, what a signer makes of such a tree,
with or without its QR link, and the lot around such trees.

Reading a document drops the prefixes bound to the e-invoicing namespace. A prefixed element
whose local name is no name by itself (`s:1b`) then keeps a name that reading refuses: its tree,
and every tree signed from it, is written as a text that does not read
(`digitNamed_rewrite_fails`), and so is a lot assembled from it (`digitNamed_lot_unreadable`).

Main statement: `serialize_reread_stable`.
-/

namespace EInvoice.Xml

/-- Writing again the root of a text: the root read from the text, when it has one, written
with or without the declaration. -/
def rewrite (text : String) (withDeclaration : Bool) : Except ReadError (Option String) :=
  (·.map (serialize · withDeclaration)) <$> readRoot text

/-- Writing again the root of the text of a tree that writing keeps gives the same text. -/
theorem rewrite_serialize {e : Element} (h : WritableNode e.toNode) (withDeclaration : Bool) :
    rewrite (serialize e withDeclaration) withDeclaration =
      .ok (some (serialize e withDeclaration)) := by
  simp [rewrite, readRoot_serialize h, Assembly.serialize_joined]

/-- A text that does not read has no root to write again. -/
theorem rewrite_eq_error {text : String} {err : ReadError} (h : readRoot text = .error err)
    (withDeclaration : Bool) : rewrite text withDeclaration = .error err := by
  rw [rewrite, h]
  rfl

/-! ## Names that are not names -/

/-- A start tag whose name is a run of name characters that is not a name stops the reader. -/
theorem nextToken_unnamed {name : List Char} {c : Char} (hne : name ≠ [])
    (hbytes : ∀ x ∈ name, nameByte x = true) (hname : isName name = false)
    (hc : nameByte c = false) (rest : List Char) :
    nextToken ('<' :: (name ++ c :: rest)) =
      .error (.invalid ("invalid XML name: " ++ String.ofList name) (c :: rest)) := by
  obtain ⟨x, xs, rfl⟩ := List.exists_cons_of_ne_nil hne
  have hx := hbytes x List.mem_cons_self
  have hnot : ∀ y, nameByte y = false → x ≠ y := by rintro y hy rfl; simp_all
  have hspan := span_nameByte hbytes hc rest
  rw [List.cons_append] at hspan ⊢
  rw [nextToken_lt_start (hnot '/' (by decide)) (hnot '?' (by decide)) (hnot '!' (by decide)),
    readStart, readQName, readName]
  simp only [hx, Bool.not_true, Bool.false_eq_true, if_false, hspan, List.isEmpty_cons, hname]
  rfl

/-- Children that hide an element named by a run of name characters that is not a name: it stands
after children that writing keeps, among them or inside one of them whose start tag writing
keeps. -/
inductive HidesUnnamed : List Node → Prop
  | here {pre post : List Node} {bad : String} {bas : List Attr} {bcs : List Node} :
      WritableNodes pre → bad ≠ "" → (∀ c ∈ bad.toList, nameByte c = true) →
      isName bad.toList = false → HidesUnnamed (pre ++ .elem "" bad bas bcs :: post)
  | inside {pre post : List Node} {sp t : String} {as : List Attr} {cs : List Node} :
      WritableNodes pre → NameReads sp t → (∀ a ∈ as, AttrWritable a) → HidesUnnamed cs →
      HidesUnnamed (pre ++ .elem sp t as cs :: post)

theorem WritableNodes.append {xs ys : List Node} (hxs : WritableNodes xs) (hys : WritableNodes ys) :
    WritableNodes (xs ++ ys) :=
  writableNodes_iff.2 fun n hn =>
    (List.mem_append.1 hn).elim (writableNodes_iff.1 hxs n) (writableNodes_iff.1 hys n)

/-- Children that writing keeps before the hiding ones still leave the element hidden. -/
theorem HidesUnnamed.append_left {ns more : List Node} (h : HidesUnnamed ns)
    (hmore : WritableNodes more) : HidesUnnamed (more ++ ns) := by
  cases h with
  | here hpre hne hbytes hbad =>
    rw [← List.append_assoc]
    exact .here (hmore.append hpre) hne hbytes hbad
  | inside hpre hname hattrs hcs =>
    rw [← List.append_assoc]
    exact .inside (hmore.append hpre) hname hattrs hcs

/-- An element whose start tag writing keeps hides what its children hide. -/
theorem HidesUnnamed.wrap {sp t : String} {as : List Attr} {cs : List Node} (hname : NameReads sp t)
    (hattrs : ∀ a ∈ as, AttrWritable a) (h : HidesUnnamed cs) : HidesUnnamed [.elem sp t as cs] :=
  @HidesUnnamed.inside [] [] sp t as cs trivial hname hattrs h

/-- What follows the name in a written start tag: an attribute after a space, or the end of the
tag; neither is a name character. -/
theorem exists_after_name (as : List Attr) (more : List Char) :
    ∃ c rest, (as.flatMap fun a => (renderAttr .canonicalStyle a).toList) ++ '>' :: more = c :: rest ∧
      nameByte c = false := by
  cases as with
  | nil => exact ⟨_, _, rfl, rfl⟩
  | cons a as' => exact ⟨' ', _, by rw [List.flatMap_cons, renderAttr_toList]; rfl, rfl⟩

/-- Reading written children that hide an element that is not named stops with an error, whatever
follows them, when the fuel covers their text. -/
theorem readTokens_hidesUnnamed {ns : List Node} (h : HidesUnnamed ns) (input : List Char) :
    ∀ (rest : List Char) (fuel : Nat) (st : Stack),
      (renderNodes .canonicalStyle ns).toList.length < fuel →
      ∃ err, readTokens input fuel st ((renderNodes .canonicalStyle ns).toList ++ rest) = .error err := by
  -- induction on where the element hides; the children before it are read as joined nodes
  induction h with
  | @here pre post bad bas bcs hpre hne hbytes hbad =>
    intro rest fuel st hfuel
    obtain ⟨c, more, hmore, hc⟩ := exists_after_name bas ((renderNodes .canonicalStyle bcs).toList ++
      '<' :: '/' :: (bad.toList ++ ['>']) ++ (renderNodes .canonicalStyle post).toList ++ rest)
    have htext : (renderNodes .canonicalStyle (pre ++ .elem "" bad bas bcs :: post)).toList ++ rest =
        (renderNodes .canonicalStyle (joinTexts pre)).toList ++ '<' :: (bad.toList ++ c :: more) := by
      rw [← hmore]
      simp [renderNodes_append, renderNodes, renderNodes_joinTexts, renderNode_elem_toList, fullName]
    have hlen : tokenCounts (joinTexts pre) <
        (renderNodes .canonicalStyle (pre ++ .elem "" bad bas bcs :: post)).toList.length := by
      have := tokenCounts_le _ (joined_joinTexts pre)
      rw [renderNodes_joinTexts] at this
      simp [renderNodes_append, renderNodes, renderNode_elem_toList]
      omega
    obtain ⟨k, rfl⟩ : ∃ k, fuel = tokenCounts (joinTexts pre) + (k + 1) :=
      ⟨fuel - tokenCounts (joinTexts pre) - 1, by omega⟩
    rw [htext, readTokens_nodes _ input (k + 1) st _ (writable_joinTexts pre hpre)
      (joined_joinTexts pre) (by simp)]
    exact ⟨_, by rw [readTokens, nextToken_unnamed (by simpa using hne) hbytes hbad hc]⟩
  | @inside pre post sp t as cs hpre hname hattrs _ ih =>
    intro rest fuel st hfuel
    set after := '<' :: '/' :: ((fullName sp t).toList ++ ['>']) ++
      (renderNodes .canonicalStyle post).toList ++ rest
    have htext : (renderNodes .canonicalStyle (pre ++ .elem sp t as cs :: post)).toList ++ rest =
        (renderNodes .canonicalStyle (joinTexts pre)).toList ++ '<' :: ((fullName sp t).toList ++
          ((as.flatMap fun a => (renderAttr .canonicalStyle a).toList) ++
            (tagEnd false ++ ((renderNodes .canonicalStyle cs).toList ++ after)))) := by
      simp [after, renderNodes_append, renderNodes, renderNodes_joinTexts, renderNode_elem_toList, tagEnd]
    have hlen : tokenCounts (joinTexts pre) + 1 + (renderNodes .canonicalStyle cs).toList.length <
        (renderNodes .canonicalStyle (pre ++ .elem sp t as cs :: post)).toList.length := by
      have := tokenCounts_le _ (joined_joinTexts pre)
      rw [renderNodes_joinTexts] at this
      simp [renderNodes_append, renderNodes, renderNode_elem_toList]
      omega
    obtain ⟨k, rfl⟩ : ∃ k, fuel = tokenCounts (joinTexts pre) + (k + 1) :=
      ⟨fuel - tokenCounts (joinTexts pre) - 1, by omega⟩
    -- the element's start tag opens it, and its children are read inside it
    have hopen := nextToken_start .canonicalStyle hname hattrs
      (fun _ _ c _ => by simpa using quotedReadably_attr c) false
      ((renderNodes .canonicalStyle cs).toList ++ after)
    rw [htext, readTokens_nodes _ input (k + 1) st _ (writable_joinTexts pre hpre)
      (joined_joinTexts pre) (by simp), readTokens_step hopen rfl]
    exact ih after k _ (by omega)

/-- A tree that hides an element named by a run of name characters that is not a name is written
as a text that does not read, with or without the declaration. -/
theorem readRoot_serialize_hidden {e : Element} (h : HidesUnnamed [e.toNode])
    (withDeclaration : Bool) : ∃ err, readRoot (serialize e withDeclaration) = .error err := by
  -- the declaration is one more node before the root, and writing keeps it
  set decl : List Node := if withDeclaration then [.instruction "xml" declarationBody] else []
  have hdecl : WritableNodes decl := by
    cases withDeclaration
    · trivial
    · exact ⟨declaration_writable, trivial⟩
  have htext : (serialize e withDeclaration).toList =
      (renderNodes .canonicalStyle (decl ++ [e.toNode])).toList ++ [] := by
    cases withDeclaration <;> simp [decl, serialize, declaration_eq, renderNodes, Element.render]
  obtain ⟨err, herr⟩ := readTokens_hidesUnnamed (h.append_left hdecl) (serialize e withDeclaration).toList
    [] ((serialize e withDeclaration).toList.length + 1) ⟨[], []⟩ (by rw [htext, List.append_nil]; omega)
  rw [← htext] at herr
  refine ⟨err, ?_⟩
  simp only [readRoot, readNodes]
  rw [herr]
  rfl

/-! ## Dropping prefixes -/

/-- Whether an element's local name is no name by itself. -/
def badLocalName : List Element → Element → Bool := fun _ e => !isName e.tag.toList

/-- Whether every element of a tree has a local name that is a name by itself, so that it stays
one when its prefix is dropped. -/
def Element.localNamesAreNames (e : Element) : Bool := !e.anyElement badLocalName

/-- A prefixed name that reads back keeps reading back without its prefix when its local part is
a name by itself: that part holds no colon. -/
theorem NameReads.unprefixed {sp t : String} (h : NameReads sp t) (ht : isName t.toList = true) :
    NameReads "" t := by
  by_cases hsp : sp = ""
  · exact hsp ▸ h
  have hcolon : ':' ∉ t.toList := by
    have hsplit := h.2
    unfold splitQName at hsplit
    split at hsplit
    · simp only [Option.some.injEq, Prod.mk.injEq] at hsplit
      exact absurd hsplit.1.symm hsp
    · split_ifs at hsplit with h1 h2
      · simp only [Option.some.injEq, Prod.mk.injEq] at hsplit
        exact absurd hsplit.1.symm hsp
      · simp only [Option.some.injEq, Prod.mk.injEq] at hsplit
        rw [← hsplit.2, String.toList_ofList]
        exact h1
  exact NCName.nameReads ⟨ht, hcolon⟩

mutual
/-- A node that writing keeps with or without the prefixes of its elements. -/
def UnprefixWritable : Node → Prop
  | .elem sp t as cs => NameReads sp t ∧ NameReads "" t ∧ (∀ a ∈ as, AttrWritable a) ∧
      (as.map fun a => (a.space, a.key)).Nodup ∧ UnprefixWritables cs
  | n => WritableNode n
/-- Nodes that writing keeps with or without the prefixes of their elements. -/
def UnprefixWritables : List Node → Prop
  | [] => True
  | n :: ns => UnprefixWritable n ∧ UnprefixWritables ns
end

mutual
theorem UnprefixWritable.writable : ∀ n : Node, UnprefixWritable n → WritableNode n
  | .elem _ _ _ cs, ⟨hname, _, hattrs, hnodup, hcs⟩ =>
    ⟨hname, hattrs, hnodup, UnprefixWritables.writable cs hcs⟩
  | .text _, h => h
  | .comment _, h => h
  | .instruction _ _, h => h
  | .directive _, h => h
theorem UnprefixWritables.writable : ∀ ns : List Node, UnprefixWritables ns → WritableNodes ns
  | [], _ => trivial
  | n :: ns, ⟨hn, hns⟩ => ⟨UnprefixWritable.writable n hn, UnprefixWritables.writable ns hns⟩
end

mutual
/-- A tree that writing keeps, each of whose local names is a name, stays one without its
prefixes. -/
theorem unprefixWritable_of : ∀ (up : List Element) (n : Node), WritableNode n →
    Node.anyElement badLocalName up n = false → UnprefixWritable n
  | up, .elem sp t as cs, ⟨hname, hattrs, hnodup, hcs⟩, hbad => by
    simp only [Node.anyElement, Bool.or_eq_false_iff] at hbad
    have ht : isName t.toList = true := by simpa [badLocalName] using hbad.1
    exact ⟨hname, hname.unprefixed ht, hattrs, hnodup, unprefixWritables_of _ cs hcs hbad.2⟩
  | _, .text _, h, _ => h
  | _, .comment _, h, _ => h
  | _, .instruction _ _, h, _ => h
  | _, .directive _, h, _ => h
theorem unprefixWritables_of : ∀ (up : List Element) (ns : List Node), WritableNodes ns →
    Node.anyElementIn badLocalName up ns = false → UnprefixWritables ns
  | _, [], _, _ => trivial
  | up, n :: ns, ⟨hn, hns⟩, hbad => by
    simp only [Node.anyElementIn, Bool.or_eq_false_iff] at hbad
    exact ⟨unprefixWritable_of up n hn hbad.1, unprefixWritables_of up ns hns hbad.2⟩
end

/-- An edit that keeps or drops each element's prefix and keeps some of its attributes. -/
def DropsPrefixes (f : ElementEdit) : Prop :=
  ∀ up e, ((f up e).1 = e.space ∨ (f up e).1 = "") ∧ (f up e).2.Sublist e.attrs

mutual
theorem UnprefixWritable.mapElements {f : ElementEdit} (hf : DropsPrefixes f) :
    ∀ (up : List Element) (n : Node), UnprefixWritable n → UnprefixWritable (Node.mapElements f up n)
  | up, .elem sp t as cs, ⟨hname, hbare, hattrs, hnodup, hcs⟩ => by
    have hfe := hf up ⟨sp, t, as, cs⟩
    rcases hedit : f up ⟨sp, t, as, cs⟩ with ⟨sp', as'⟩
    rw [hedit] at hfe
    obtain ⟨hsp, hsub⟩ := hfe
    simp only [Node.mapElements, hedit]
    refine ⟨?_, hbare, fun a ha => hattrs a (hsub.subset ha), hnodup.sublist (hsub.map _),
      UnprefixWritables.mapElements hf _ cs hcs⟩
    rcases hsp with rfl | rfl
    exacts [hname, hbare]
  | _, .text _, h => h
  | _, .comment _, h => h
  | _, .instruction _ _, h => h
  | _, .directive _, h => h
theorem UnprefixWritables.mapElements {f : ElementEdit} (hf : DropsPrefixes f) :
    ∀ (up : List Element) (ns : List Node), UnprefixWritables ns →
      UnprefixWritables (Node.mapElementsIn f up ns)
  | _, [], _ => trivial
  | up, n :: ns, ⟨hn, hns⟩ =>
    ⟨UnprefixWritable.mapElements hf up n hn, UnprefixWritables.mapElements hf up ns hns⟩
end

theorem Element.toNode_mapElements (e : Element) (f : ElementEdit) (up : List Element) :
    (e.mapElements f up).toNode = Node.mapElements f up e.toNode := by
  obtain ⟨sp, t, as, cs⟩ := e
  rcases hedit : f up ⟨sp, t, as, cs⟩ with ⟨sp', as'⟩
  simp [Element.mapElements, Element.toNode, Node.mapElements, hedit]

theorem mapElementsIn_append (f : ElementEdit) (up : List Element) (xs ys : List Node) :
    Node.mapElementsIn f up (xs ++ ys) = Node.mapElementsIn f up xs ++ Node.mapElementsIn f up ys := by
  induction xs with
  | nil => rfl
  | cons x xs ih => simp [Node.mapElementsIn, ih]

/-- Setting an attribute whose name reads back to a value XML allows keeps a tree that writing
keeps. -/
theorem writable_setAttr {e : Element} (h : WritableNode e.toNode) {key v sp k : String}
    (hsplit : splitName key = (sp, k)) (hkey : NameReads sp k)
    (hv : ∀ c ∈ v.toList, isXmlChar c = true) : WritableNode (e.setAttr key v).toNode := by
  obtain ⟨hname, hattrs, hnodup, hcs⟩ := h
  simp only [Element.setAttr, hsplit]
  split
  · -- the attribute is there: only its value changes
    refine ⟨hname, ?_, ?_, hcs⟩
    · intro a ha
      obtain ⟨b, hb, rfl⟩ := List.mem_map.1 ha
      split
      · exact ⟨(hattrs b hb).1, hv⟩
      · exact hattrs b hb
    · rw [List.map_map]
      convert hnodup using 1
      exact List.map_congr_left fun b _ => by simp only [Function.comp]; split <;> rfl
  · -- it is added at the end, and no attribute has its name yet
    rename_i hnone
    refine ⟨hname, ?_, ?_, hcs⟩
    · intro a ha
      rcases List.mem_append.1 ha with ha | ha
      · exact hattrs a ha
      · rw [List.mem_singleton.1 ha]
        exact ⟨hkey, hv⟩
    · rw [List.map_append, List.nodup_append]
      refine ⟨hnodup, by simp, ?_⟩
      simp only [List.any_eq_true, Bool.and_eq_true, beq_iff_eq, not_exists, not_and] at hnone
      intro x hx y hy heq
      obtain ⟨b, hb, rfl⟩ := List.mem_map.1 hx
      simp only [List.map_cons, List.map_nil, List.mem_singleton] at hy
      rw [hy, Prod.mk.injEq] at heq
      exact hnone b hb heq.1 heq.2

theorem writable_removeAttr {e : Element} (h : WritableNode e.toNode) (key : String) :
    WritableNode (e.removeAttr key).toNode := by
  obtain ⟨hname, hattrs, hnodup, hcs⟩ := h
  refine ⟨hname, fun a ha => hattrs a (List.eraseP_subset ha), ?_, hcs⟩
  exact hnodup.sublist (List.eraseP_sublist.map _)

mutual
/-- An element found in a tree that writing keeps is one too. -/
theorem writable_find {tag : String} : ∀ (n : Node) {e : Element}, Node.find tag n = some e →
    WritableNode n → WritableNode e.toNode
  | .elem sp t as cs, e, h, hw => by
    unfold Node.find at h
    split at h
    · cases h
      exact hw
    · exact writable_findIn cs h hw.2.2.2
  | .text _, _, h, _ => by simp [Node.find] at h
  | .comment _, _, h, _ => by simp [Node.find] at h
  | .instruction _ _, _, h, _ => by simp [Node.find] at h
  | .directive _, _, h, _ => by simp [Node.find] at h
theorem writable_findIn {tag : String} : ∀ (ns : List Node) {e : Element}, Node.findIn tag ns = some e →
    WritableNodes ns → WritableNode e.toNode
  | [], _, h, _ => by simp [Node.findIn] at h
  | n :: ns, e, h, ⟨hn, hns⟩ => by
    unfold Node.findIn at h
    split at h
    · rename_i x hx
      cases h
      exact writable_find n hx hn
    · exact writable_findIn ns h hns
end

end EInvoice.Xml

namespace EInvoice.Invoice

open EInvoice.Xml EInvoice.Clock

theorem Document.read_element {text : String} {d : Document} (h : Document.read text = .ok d) :
    ∃ root rde, readRoot text = .ok (some root) ∧
      (( unprefix root).find "rDE" = some rde ∨
        ∃ de, ( unprefix root).find "DE" = some de ∧ rde = wrapDE de) ∧
      ∀ t, d.element t =
        if (rde.selectAttr "xmlns").isSome then rde else rde.setAttr "xmlns" sifenNamespace := by
  unfold Document.read at h
  cases hr : readRoot text with
  | error err => simp [hr, bind, Except.bind] at h
  | ok r =>
    cases r with
    | none => simp [hr, bind, Except.bind] at h
    | some root =>
      simp only [hr, bind, Except.bind, pure, Except.pure] at h
      -- every check that fails is an error; what passes keeps the element found as the tree
      split at h
      · rename_i r hfind
        refine ⟨root, r, rfl, .inl hfind, fun t => ?_⟩
        repeat' split at h
        all_goals first | (simp at h; done) | skip
        all_goals
          cases h
          simp_all [Document.element]
      · split at h
        · rename_i de hde
          refine ⟨root, wrapDE de, rfl, .inr ⟨de, hde, rfl⟩, fun t => ?_⟩
          repeat' split at h
          all_goals first | (simp at h; done) | skip
          all_goals
            cases h
            simp_all [Document.element]
        · simp at h

/-- Dropping the prefixes of a tree that writing keeps, each of whose local names is a name,
gives a tree that writing keeps. -/
theorem unprefix_writable {root : Element} (h : WritableNode root.toNode)
    (hn : root.localNamesAreNames = true) : WritableNode ( unprefix root).toNode := by
  have hu : UnprefixWritable root.toNode :=
    unprefixWritable_of [] _ h (by simpa [Element.localNamesAreNames, Element.anyElement] using hn)
  -- both passes keep or drop prefixes and keep some attributes
  have hren : DropsPrefixes fun up e =>
      (if (!e.space.isEmpty && namespaceOf e up == sifenNamespace) = true then "" else e.space,
        e.attrs) := by
    intro up e
    refine ⟨?_, List.Sublist.refl _⟩
    dsimp only
    split <;> simp
  have hclean : DropsPrefixes fun _ e =>
      (e.space, e.attrs.filter fun a => !(a.space == "xmlns" && a.value == sifenNamespace)) :=
    fun _ _ => ⟨.inl rfl, List.filter_sublist⟩
  dsimp only [ unprefix]
  split
  · exact h
  · have hw := UnprefixWritable.mapElements hclean [] _
      (Element.toNode_mapElements root _ [] ▸ UnprefixWritable.mapElements hren [] _ hu)
    rw [← Element.toNode_mapElements] at hw
    split
    · exact UnprefixWritable.writable _ hw
    · exact writable_setAttr (UnprefixWritable.writable _ hw) (splitName_of_colon_free (by decide))
        (NCName.nameReads (by decide)) sifenNamespace_chars

/-- A bare `DE` that writing keeps is wrapped into an `rDE` that writing keeps. -/
theorem wrapDE_writable {de : Element} (h : WritableNode de.toNode) :
    WritableNode (wrapDE de).toNode := by
  have hver : WritableNode (leaf "dVerFor" formatVersion) :=
    PlainNode.writable documentNames_ncname _ ((plainNode_leaf _ _).2 (by decide))
  exact ⟨(show NCName "rDE" by decide).nameReads, rootAttrs_writable, rootAttrs_nodup,
    hver, writable_removeAttr h "xmlns", trivial⟩

/-- The tree of a document read from a text whose root has only local names that are names is
a tree that writing keeps. -/
theorem Document.read_writable {text : String} {d : Document} {root : Element}
    (h : Document.read text = .ok d) (hroot : readRoot text = .ok (some root))
    (hn : root.localNamesAreNames = true) (t : Time) : WritableNode (d.element t).toNode := by
  obtain ⟨root', rde, hroot', hfound, helem⟩ := Document.read_element h
  cases hroot.symm.trans hroot'
  have hu := unprefix_writable (readRoot_rereadable hroot).1 hn
  have hrde : WritableNode rde.toNode := by
    rcases hfound with hfind | ⟨de, hde, rfl⟩
    · exact writable_find _ hfind hu
    · exact wrapDE_writable (writable_find _ hde hu)
  rw [helem t]
  split
  · exact hrde
  · exact writable_setAttr hrde (splitName_of_colon_free (by decide)) (NCName.nameReads (by decide))
      sifenNamespace_chars

/-! ## A prefixed element after a document's `DE` -/

/-- The fields read back from the `DE` of a document built from fields give its identifier. -/
theorem Document.new_reads {f : Fields} {d : Document} (hnew : Document.new f = .ok d)
    (hstamp : -9223372036854775808 ≤ f.stampNumber ∧ f.stampNumber ≤ 9223372036854775807)
    (t : Time) :
    ∃ de g, WrittenDE d.id de ∧ d.element t = documentRoot de [] ∧
      isValidIdentifier d.id = true ∧ identifierFields d.id de.joined = .ok g ∧
      g.identifier = .ok d.id := by
  obtain ⟨hid, hd⟩ := Document.new_eq_ok hnew
  have hFid : f.withDefaults.identifier = .ok d.id := (identifier_withDefaults f).trans hid
  have hF : f.withDefaults.InRange := identifier_inRange hFid
  obtain ⟨de, hde, helem⟩ := Document.element_new hnew t
  have hsel : (f.withDefaults.toElement d.id t).selectElement "DE" = some de := by
    have hE : d.element t = f.withDefaults.toElement d.id t := by rw [hd]; rfl
    rw [← hE, helem]
    exact hde.selectElement_documentRoot []
  obtain ⟨g, hg, hsame, hzero⟩ := identifierFields_written hF hstamp hsel
  have hgid : g.identifier = .ok d.id :=
    (identifier_congr hsame (by rw [hzero, hF.issued])).trans hFid
  exact ⟨de, g, hde, helem, isValidIdentifier_of_identifier hFid, hg, hgid⟩

/-- Dropping prefixes from an `rDE` root whose children are plain but for a last, childless element in a
prefix it declares for the e-invoicing namespace drops that element's prefix and declaration. -/
theorem unprefix_declaredLeaf {names : List String} {p t : String} {cs : List Node}
    (hcs : PlainNodes names cs) (hp : p ≠ "") :
    unprefix ⟨"", "rDE", rootAttrs, cs ++ [.elem p t [⟨"xmlns", p, sifenNamespace⟩] []]⟩ =
      ⟨"", "rDE", rootAttrs, cs ++ [.elem "" t [] []]⟩ := by
  set root : Element := ⟨"", "rDE", rootAttrs, cs ++ [.elem p t [⟨"xmlns", p, sifenNamespace⟩] []]⟩
  -- the leaf declares its own prefix for the namespace
  have hbound : ∀ up, (!(p : String).isEmpty &&
      namespaceOf ⟨p, t, [⟨"xmlns", p, sifenNamespace⟩], []⟩ up == sifenNamespace) = true := by
    intro up
    simp [namespaceOf, resolve, Element.declared, hp]
  have hany : root.anyElement (fun up e => !e.space.isEmpty && namespaceOf e up == sifenNamespace) =
      true := by
    simp only [root, Element.anyElement, Element.toNode, Node.anyElement, anyElementIn_append,
      Node.anyElementIn, hbound, Bool.or_true, Bool.true_or]
  -- renaming keeps the plain children and the root, and drops the leaf's prefix
  have hkeep : ∀ (up : List Element) (e : Element), e.space = "" → (∀ a ∈ e.attrs, PlainAttr a) →
      (if (!e.space.isEmpty && namespaceOf e up == sifenNamespace) = true then "" else e.space,
        e.attrs) = (e.space, e.attrs) := by
    intro up e hsp _
    simp [hsp]
  have hren : root.mapElements (fun up e =>
      (if (!e.space.isEmpty && namespaceOf e up == sifenNamespace) = true then "" else e.space,
        e.attrs)) [] = ⟨"", "rDE", rootAttrs, cs ++ [.elem "" t [⟨"xmlns", p, sifenNamespace⟩] []]⟩ := by
    simp only [root, Element.mapElements, Element.toNode, Node.mapElements, mapElementsIn_append,
      PlainNodes.mapElements hkeep _ cs hcs, Node.mapElementsIn, hbound]
    simp
  -- cleaning keeps the plain children and the root's attributes, and drops the declaration
  have hfilter : ∀ (up : List Element) (e : Element), e.space = "" → (∀ a ∈ e.attrs, PlainAttr a) →
      (e.space, e.attrs.filter fun a => !(a.space == "xmlns" && a.value == sifenNamespace)) =
        (e.space, e.attrs) := by
    intro up e _ ha
    rw [List.filter_eq_self.2 fun a h => by simp [(ha a h).1]]
  have hclean : (⟨"", "rDE", rootAttrs, cs ++ [.elem "" t [⟨"xmlns", p, sifenNamespace⟩] []]⟩ :
      Element).mapElements (fun _ e =>
        (e.space, e.attrs.filter fun a => !(a.space == "xmlns" && a.value == sifenNamespace))) [] =
      ⟨"", "rDE", rootAttrs, cs ++ [.elem "" t [] []]⟩ := by
    simp only [Element.mapElements, Element.toNode, Node.mapElements, mapElementsIn_append,
      PlainNodes.mapElements hfilter _ cs hcs, Node.mapElementsIn]
    simp [rootAttrs, xsiNamespace, sifenNamespace]
  dsimp only [ unprefix]
  rw [hany]
  simp only [Bool.not_true, Bool.false_eq_true, if_false, hren, hclean, rootAttrs_xmlns, if_true]

end EInvoice.Invoice

namespace EInvoice.Assembly

open EInvoice.Xml EInvoice.Invoice EInvoice.Security EInvoice.Clock

/-- The trees the program writes: roots read from text, the trees of documents built from fields,
the trees of documents read from text whose local names are names, what a signer signs from
such a tree, such a tree with its QR link, and lots of such trees. -/
inductive Produced : Element → Prop
  | read {text : String} {e : Element} : readRoot text = .ok (some e) → Produced e
  | built {f : Fields} {d : Document} (t : Time) : Document.new f = .ok d → Produced (d.element t)
  | parsed {text : String} {root : Element} {d : Document} (t : Time) :
      readRoot text = .ok (some root) → root.localNamesAreNames = true →
      Document.read text = .ok d → Produced (d.element t)
  | signed {s : Signer} {rde t : Element} : Produced rde → s.sign rde = .ok t → Produced t
  | withQr {q : QrSettings} {t t' : Element} {link : String} :
      Produced t → appendQr q t = .ok (t', link) → Produced t'
  | lot {ts : List Element} : (∀ t ∈ ts, Produced t) → Produced (lotElement ts)

/-- Every tree the program makes is one that writing keeps. -/
theorem Produced.writable {e : Element} (h : Produced e) : WritableNode e.toNode := by
  induction h with
  | read hr => exact (readRoot_rereadable hr).1
  | built t hnew => exact (Document.treeReads_new hnew t).writable
  | parsed t hroot hn hread => exact Document.read_writable hread hroot hn t
  | signed _ hs ih => exact sign_writable ih hs
  | withQr _ hq ih => exact appendQr_writable ih hq
  | lot _ ih => exact lotElement_writable ih

theorem Assembler.sign_produced {a : Assembler} {d : Document} {t : Element}
    (hd : Produced (d.element a.now)) (h : a.sign (some d) = .ok t) : Produced t := by
  obtain ⟨-, -, s, signed, -, hsign, hqr⟩ := Assembler.sign_eq_ok h
  rcases hqr with ⟨-, rfl⟩ | ⟨q, link, -, hq⟩
  · exact .signed hd hsign
  · exact .withQr (.signed hd hsign) hq

/-- A lot assembled from documents whose trees the program makes is written from a tree the
program makes. -/
theorem Assembler.lot_produced {a : Assembler} {id : String} {docs : List (Option Document)}
    {sealed : List Document} {lot : Lot}
    (hdocs : ∀ d ∈ docs.filterMap (fun x => x), Produced (d.element a.now))
    (h : a.lot id docs = .ok (sealed, lot)) :
    Produced lot.element ∧ lot.text = serialize lot.element true := by
  obtain ⟨signed, hsigned, rfl⟩ := lot_eq_ok_lot h
  refine ⟨.lot ?_, rfl⟩
  have hall := signAll_eq_ok_iff.1 hsigned
  generalize docs.filterMap (fun x => x) = ds at hdocs hall
  clear hsigned h
  -- each tree is the assembler's signature of its document
  induction hall with
  | nil => simp
  | cons hsign _ ih =>
    intro t ht
    rcases List.mem_cons.1 ht with rfl | ht
    · exact Assembler.sign_produced (hdocs _ List.mem_cons_self) hsign
    · exact ih (fun d hd => hdocs d (List.mem_cons_of_mem _ hd)) t ht

/-- Writing a tree the program makes, reading the text back and writing its root again gives the
same text, with or without the declaration. So it is for every root read from a text, every
document built from fields, every document read from a text whose local names are names, all a
signer signs from such trees with or without their QR links, and every lot of such trees. In
particular the signed text of a document the assembler signs, and the text of a lot it assembles
from such documents, are written again as themselves. -/
theorem serialize_reread_stable :
    (∀ e, Produced e → ∀ decl, rewrite (serialize e decl) decl = .ok (some (serialize e decl))) ∧
    (∀ (a : Assembler) (d d' : Document) (sd : SignedDocument), Produced (d.element a.now) →
      a.document (some d) = .ok (d', sd) → rewrite sd.xml false = .ok (some sd.xml)) ∧
    (∀ (a : Assembler) (id : String) (docs : List (Option Document)) (sealed : List Document)
      (lot : Lot), (∀ d ∈ docs.filterMap (fun x => x), Produced (d.element a.now)) →
      a.lot id docs = .ok (sealed, lot) → rewrite lot.text true = .ok (some lot.text)) := by
  refine ⟨fun e he decl => rewrite_serialize he.writable decl, ?_, ?_⟩
  · intro a d d' sd hd h
    obtain ⟨hsign, hxml⟩ := document_signs h
    rw [hxml]
    exact rewrite_serialize (Assembler.sign_produced hd hsign).writable false
  · intro a id docs sealed lot hdocs h
    obtain ⟨hlot, htext⟩ := Assembler.lot_produced hdocs h
    rw [htext]
    exact rewrite_serialize hlot.writable true

/-- The sample invoice's tree, a tree the program builds, is written again as itself. -/
theorem sampleDocument_reread_stable :
    Produced (Signing.sampleDocument.element Time.zero) ∧
      rewrite (serialize (Signing.sampleDocument.element Time.zero) true) true =
        .ok (some (serialize (Signing.sampleDocument.element Time.zero) true)) :=
  ⟨.built Time.zero Signing.new_sampleInvoice,
    serialize_reread_stable.1 _ (.built Time.zero Signing.new_sampleInvoice) true⟩

/-! ## A local name that is no name -/

/-- An element in a prefix it binds to the e-invoicing namespace itself, with a local name that
starts with a digit. -/
def digitNamed : Node := .elem "s" "1b" [⟨"xmlns", "s", sifenNamespace⟩] []

/-- The sample invoice's tree with `digitNamed` after its `DE`, written out. -/
def digitNamedText : String :=
  serialize ((Signing.sampleDocument.element Time.zero).addChild digitNamed) false

theorem digitNamed_writable : WritableNode digitNamed := by
  refine ⟨?_, ?_, by simp, trivial⟩
  · show isName (fullName "s" "1b").toList = true ∧ splitQName (fullName "s" "1b") = some ("s", "1b")
    decide
  · simp only [List.mem_singleton, forall_eq]
    exact ⟨NCName.nameReads_prefixed (by decide) (by decide), sifenNamespace_chars⟩

/-- What reading `digitNamedText` gives. Its root has a local name that is no name. The document
read from it is unsigned, and has a tree with a `DE` that has an identifier and no signature;
reading dropped the prefix of `s:1b`, so that tree, and every tree with more children after its
own, hides an element that is not named. -/
theorem digitNamed_document :
    (∃ root, readRoot digitNamedText = .ok (some root) ∧ root.localNamesAreNames = false) ∧
    ∃ d rde, Document.read digitNamedText = .ok d ∧ (∀ t, d.element t = rde) ∧
      d.state = .unsigned ∧ (∀ t, d.elementChecked t = .ok rde) ∧
      rde.find "Signature" = none ∧ (∃ de, rde.selectElement "DE" = some de ∧ de.attrValue "Id" "" ≠ "") ∧
      ∀ post, HidesUnnamed [({ rde with children := rde.children ++ post } : Element).toNode] := by
  obtain ⟨de, g, hde, helem, hvalid, hg, hgid⟩ :=
    Document.new_reads Signing.new_sampleInvoice ⟨by decide, by decide⟩ Time.zero
  set cs := joinTexts [leaf "dVerFor" formatVersion, de.toNode]
  have hcs : PlainNodes documentNames cs := PlainNodes.joinTexts _ hde.documentRoot_children_plain
  -- the text reads as the sample's root around its `DE`, with the prefixed element after it
  have hread : readRoot digitNamedText =
      .ok (some ⟨"", "rDE", rootAttrs, cs ++ [digitNamed]⟩) := by
    have hroot : (Signing.sampleDocument.element Time.zero).addChild digitNamed =
        documentRoot de [digitNamed] := by
      rw [helem]
      rfl
    rw [digitNamedText, hroot,
      readRoot_serialize (hde.documentRoot_writable [digitNamed] ⟨digitNamed_writable, trivial⟩)]
    simp [documentRoot, Element.joined, cs, joinTexts, Element.toNode, joinNode_elem, leaf, digitNamed]
  -- reading drops the prefix of `s:1b`, and keeps the `DE`
  set rde : Element := ⟨"", "rDE", rootAttrs, cs ++ [.elem "" "1b" [] []]⟩
  have hsel : rde.selectElement "DE" = some de.joined := by
    have h0 := (hde.locates_documentRoot [] rfl).de
    simp only [documentRoot, Element.joined, List.append_nil] at h0
    simp only [rde, Element.selectElement, Element.childElements, List.filterMap_append,
      List.find?_append] at h0 ⊢
    rw [h0]
    rfl
  have hsig : rde.find "Signature" = none := by
    rw [Element.find_of_ne (show "rDE" ≠ "Signature" by decide), findIn_append,
      PlainNodes.findIn_none (show "Signature" ∉ documentNames by decide) _ hcs]
    simp [Node.findIn, Node.find]
  have hl : Locates ⟨"", "rDE", rootAttrs, cs ++ [digitNamed]⟩ rde de.joined :=
    ⟨.inl (by rw [digitNamed, unprefix_declaredLeaf hcs (by decide)]; exact find_self _),
      rootAttrs_xmlns, hsel⟩
  have hdoc := Document.read_eq_ok hread hl hde.attrValue_joined hvalid hg hgid
  simp only [hsig, Option.isSome_none, Bool.false_eq_true, if_false] at hdoc
  have hid : de.joined.attrValue "Id" "" ≠ "" := by rw [hde.attrValue_joined]; decide
  refine ⟨⟨_, hread, ?_⟩, _, rde, hdoc, fun _ => rfl, rfl, fun _ => rfl, hsig, ⟨_, hsel, hid⟩,
    fun post => ?_⟩
  · have h1b : isName ['1', 'b'] = false := by decide
    simp [Element.localNamesAreNames, Element.anyElement, Element.toNode, Node.anyElement,
      anyElementIn_append, Node.anyElementIn, badLocalName, digitNamed, h1b]
  · -- `1b` stands among the children of the root, after children that writing keeps
    simp only [rde, List.append_assoc, List.cons_append, List.nil_append]
    exact .wrap (show NCName "rDE" by decide).nameReads rootAttrs_writable
      (.here (PlainNodes.writable documentNames_ncname _ hcs) (by simp)
        (by rw [show "1b".toList = ['1', 'b'] from rfl]; exact List.all_eq_true.1 (by decide))
        (by rw [show "1b".toList = ['1', 'b'] from rfl]; decide))

/-- Writing again is not stable for every document read from text. The sample invoice's tree
with an element `s:1b` after its `DE`, the prefix bound to the e-invoicing namespace, is written
as a text whose root has a local name that is no name. The document read from it keeps that
element as `1b`, without prefix; its tree, and the tree the sample signer signs from it, are
written as texts that do not read. -/
theorem digitNamed_rewrite_fails :
    (∃ root, readRoot digitNamedText = .ok (some root) ∧ root.localNamesAreNames = false) ∧
    ∃ d, Document.read digitNamedText = .ok d ∧
      (∀ t decl, ∃ err, rewrite (serialize (d.element t) decl) decl = .error err) ∧
      ∃ s, newSigner sampleCredential sampleValidator = .ok s ∧
        ∀ t, ∃ signed, s.sign (d.element t) = .ok signed ∧
          ∀ decl, ∃ err, rewrite (serialize signed decl) decl = .error err := by
  obtain ⟨hroot, d, rde, hdoc, helem, -, -, hsig, ⟨de, hsel, hid⟩, hfails⟩ := digitNamed_document
  refine ⟨hroot, d, hdoc, fun t decl => ?_, ?_⟩
  · obtain ⟨err, herr⟩ := readRoot_serialize_hidden (hfails []) decl
    rw [List.append_nil] at herr
    exact ⟨err, by rw [helem]; exact rewrite_eq_error herr decl⟩
  · obtain ⟨s, hs, -, -⟩ := sampleSigner_eq_ok
    obtain ⟨hcheck, -, hbits⟩ := newSigner_eq_ok hs
    obtain ⟨sig, -, hsign⟩ := sign_eq_ok hcheck hbits hsig hsel hid
    refine ⟨s, hs, fun t => ⟨_, by rw [helem]; exact hsign, fun decl => ?_⟩⟩
    obtain ⟨err, herr⟩ := readRoot_serialize_hidden (hfails [sig.toNode]) decl
    exact ⟨err, rewrite_eq_error herr decl⟩

/-- Reading a lot back needs documents whose trees writing keeps. The document read from
`digitNamedText` signs, so an assembler with the sample signer makes a lot of it alone, listing its
identifier; the lot's text does not read, so no document comes back from it. -/
theorem digitNamed_lot_unreadable :
    ∃ d s, Document.read digitNamedText = .ok d ∧
      newSigner sampleCredential sampleValidator = .ok s ∧
      ∃ sealed lot, ({ signer := some s, now := sampleNow } : Assembler).lot "1" [some d] =
          .ok (sealed, lot) ∧
        lot.documents = [d.id] ∧ ∃ err, readLot lot.text = .error err := by
  obtain ⟨-, d, rde, hdoc, -, hu, hchecked, hsig, ⟨de, hsel, hid⟩, hhides⟩ := digitNamed_document
  obtain ⟨s, hs, -, -⟩ := sampleSigner_eq_ok
  obtain ⟨hcheck, -, hbits⟩ := newSigner_eq_ok hs
  obtain ⟨sig, -, hsign⟩ := sign_eq_ok hcheck hbits hsig hsel hid
  -- the assembler signs the document as its signer signs the tree
  have hasign : ({ signer := some s, now := sampleNow } : Assembler).sign (some d) =
      .ok (rde.addChild sig.toNode) := by
    simp [Assembler.sign, hu, hchecked, hsign, Except.mapError, bind, Except.bind, pure, Except.pure]
  obtain ⟨⟨sealed, lot⟩, hlot⟩ := (@lot_eq_ok_iff { signer := some s, now := sampleNow } "1"
    [some d]).2 ⟨by simp, by show 1 ≤ maxLotDocuments; decide, by simp [hu], by simp,
    fun d' hd' => by simp at hd'; exact hd' ▸ ⟨_, hasign⟩⟩
  obtain ⟨signed, hsigned, -, rfl⟩ := lot_eq_ok_sealed hlot
  -- the lot holds that signed tree alone
  have hone : signed = [rde.addChild sig.toNode] := by
    have hall := signAll_eq_ok_iff.1 hsigned
    simp only [List.filterMap_cons, List.filterMap_nil, List.forall₂_cons_left_iff,
      List.forall₂_nil_left_iff] at hall
    obtain ⟨t, rest, ht, rfl, rfl⟩ := hall
    rw [hasign] at ht
    cases ht
    rfl
  subst hone
  -- the lot's root hides `1b` inside the signed tree, after the format version
  have hlotHides : HidesUnnamed [(lotElement [rde.addChild sig.toNode]).toNode] :=
    .wrap (show NCName "rLoteDE" by decide).nameReads lotAttrs_writable
      (HidesUnnamed.append_left (hhides [sig.toNode])
        (show WritableNodes [leaf "dVerFor" formatVersion] from ⟨formatVersion_writable, trivial⟩))
  obtain ⟨err, herr⟩ := readRoot_serialize_hidden hlotHides true
  exact ⟨d, s, hdoc, hs, _, _, hlot, rfl, _, readLot_eq_malformed herr⟩

end EInvoice.Assembly
