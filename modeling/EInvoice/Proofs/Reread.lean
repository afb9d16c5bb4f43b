import EInvoice.Proofs.Markup
import EInvoice.Xml.Canonical
import EInvoice.Xml.Search
import Mathlib

/-!
# What a tree read back keeps

Reading a written tree gives it back with its character data joined (`Element.joined`). Every
question the signature asks of a tree has the same answer there:

* child elements, and so `selectElement` and `selectElements`, come back joined, in order;
* a depth-first search (`Element.find`) finds the same element, joined;
* the text of an element comes back as reading gives texts back (`readableText`);
* the exclusive canonical form is the same text.
-/

namespace EInvoice.Xml

theorem Element.joined_toNode (e : Element) :
    e.joined.toNode = .elem e.space e.tag e.attrs (joinTexts e.children) := rfl

@[simp] theorem Element.joined_space (e : Element) : e.joined.space = e.space := rfl
@[simp] theorem Element.joined_tag (e : Element) : e.joined.tag = e.tag := rfl
@[simp] theorem Element.joined_attrs (e : Element) : e.joined.attrs = e.attrs := rfl

theorem joinNode_elem (sp t : String) (as : List Attr) (cs ns : List Node) :
    joinNode (.elem sp t as cs) ns = .elem sp t as (joinTexts cs) :: ns := rfl

/-! ## Child elements -/

section Element?

variable (sp t d b : String) (as : List Attr) (cs : List Node)

@[simp] theorem element?_elem : Node.element? (.elem sp t as cs) = some ⟨sp, t, as, cs⟩ := rfl
@[simp] theorem element?_text : Node.element? (.text d) = none := rfl
@[simp] theorem element?_comment : Node.element? (.comment d) = none := rfl
@[simp] theorem element?_instruction : Node.element? (.instruction t b) = none := rfl
@[simp] theorem element?_directive : Node.element? (.directive d) = none := rfl

end Element?

theorem filterMap_element?_consText (d : String) (ns : List Node) :
    (consText d ns).filterMap Node.element? = ns.filterMap Node.element? := by
  cases ns with
  | nil => by_cases hd : d = "" <;> simp [consText, hd, List.filterMap_cons]
  | cons n ns => cases n <;> by_cases hd : d = "" <;> simp [consText, hd, List.filterMap_cons]

/-- Joining character data keeps the child elements, in order, each joined. -/
theorem filterMap_element?_joinTexts (ns : List Node) :
    (joinTexts ns).filterMap Node.element? = (ns.filterMap Node.element?).map Element.joined := by
  induction ns with
  | nil => rfl
  | cons n ns ih =>
    cases n with
    | elem sp t as cs => simp [joinTexts, joinNode_elem, ih, Element.joined]
    | text d => simp [joinTexts, joinNode, filterMap_element?_consText, ih, List.filterMap_cons]
    | _ => simp [joinTexts, joinNode, ih, List.filterMap_cons]

theorem Element.childElements_joined (e : Element) :
    e.joined.childElements = e.childElements.map Element.joined :=
  filterMap_element?_joinTexts e.children

theorem Element.selectElement_joined (e : Element) (name : String) :
    e.joined.selectElement name = (e.selectElement name).map Element.joined := by
  simp only [Element.selectElement, Element.childElements_joined, List.find?_map]
  rfl

theorem Element.selectElements_joined (e : Element) (name : String) :
    e.joined.selectElements name = (e.selectElements name).map Element.joined := by
  simp only [Element.selectElements, Element.childElements_joined, List.filter_map]
  rfl

/-! ## Depth-first search -/

theorem findIn_consText (tag d : String) (ns : List Node) :
    Node.findIn tag (consText d ns) = Node.findIn tag ns := by
  cases ns with
  | nil => by_cases hd : d = "" <;> simp [consText, hd, Node.findIn, Node.find]
  | cons n ns =>
    cases n <;> by_cases hd : d = "" <;> simp [consText, hd, Node.findIn, Node.find]

mutual
theorem find_elem_joinTexts (tag : String) : ∀ (sp t : String) (as : List Attr) (cs : List Node),
    Node.find tag (.elem sp t as (joinTexts cs)) =
      (Node.find tag (.elem sp t as cs)).map Element.joined
  | sp, t, as, cs => by
    by_cases ht : t = tag
    · simp [Node.find, ht, Element.joined]
    · simp only [Node.find, ht, if_false]
      exact findIn_joinTexts tag cs
/-- A search through joined nodes finds the same element, joined. -/
theorem findIn_joinTexts (tag : String) : ∀ ns : List Node,
    Node.findIn tag (joinTexts ns) = (Node.findIn tag ns).map Element.joined
  | [] => rfl
  | .elem sp t as cs :: ns => by
    rw [joinTexts, joinNode_elem, Node.findIn, find_elem_joinTexts tag sp t as cs, Node.findIn]
    cases Node.find tag (.elem sp t as cs) with
    | some e => rfl
    | none => exact findIn_joinTexts tag ns
  | .text d :: ns => by
    rw [joinTexts, joinNode, findIn_consText, findIn_joinTexts tag ns]
    simp [Node.findIn, Node.find]
  | .comment d :: ns => by
    simp only [joinTexts, joinNode, Node.findIn, Node.find]
    exact findIn_joinTexts tag ns
  | .instruction t b :: ns => by
    simp only [joinTexts, joinNode, Node.findIn, Node.find]
    exact findIn_joinTexts tag ns
  | .directive d :: ns => by
    simp only [joinTexts, joinNode, Node.findIn, Node.find]
    exact findIn_joinTexts tag ns
end

theorem Element.find_joined (e : Element) (tag : String) :
    e.joined.find tag = (e.find tag).map Element.joined :=
  find_elem_joinTexts tag e.space e.tag e.attrs e.children

/-! ## Texts -/

@[simp] theorem readableText_append (s t : String) :
    readableText (s ++ t) = readableText s ++ readableText t := by
  simp [readableText]

@[simp] theorem readableText_empty : readableText "" = "" := rfl

theorem leadingText_consText (d : String) (ns : List Node) :
    Element.leadingText (consText d ns) = d ++ Element.leadingText ns := by
  cases ns with
  | nil => by_cases hd : d = "" <;> simp [consText, hd, Element.leadingText]
  | cons n ns =>
    cases n <;> by_cases hd : d = "" <;> simp [consText, hd, Element.leadingText, String.append_assoc]

/-- The text at the front of joined nodes is the text at the front, as reading gives it. -/
theorem leadingText_joinTexts (ns : List Node) :
    Element.leadingText (joinTexts ns) = readableText (Element.leadingText ns) := by
  induction ns with
  | nil => rfl
  | cons n ns ih =>
    cases n with
    | text d => simp [joinTexts, joinNode, leadingText_consText, ih, Element.leadingText]
    | comment d => simp [joinTexts, joinNode, ih, Element.leadingText]
    | _ => simp [joinTexts, joinNode, Element.leadingText]

theorem Element.text_joined (e : Element) : e.joined.text = readableText e.text :=
  leadingText_joinTexts e.children

/-! ## Canonical form -/

theorem renderNodes_append (s : Style) (ns ms : List Node) :
    renderNodes s (ns ++ ms) = renderNodes s ns ++ renderNodes s ms := by
  induction ns with
  | nil => simp [renderNodes]
  | cons n ns ih => simp [renderNodes, ih, String.append_assoc]

theorem canonicalNodes_cons (s : List String) (d : String) (b : Bindings) (n : Node)
    (ns : List Node) :
    canonicalNodes s d b (n :: ns) = canonicalNode s d b n ++ canonicalNodes s d b ns := by
  rw [canonicalNodes]

theorem canonicalNodes_consText (s : List String) (d : String) (b : Bindings) (x : String)
    (ns : List Node) :
    renderNodes .canonicalStyle (canonicalNodes s d b (consText x ns)) =
      escape .text x ++ renderNodes .canonicalStyle (canonicalNodes s d b ns) := by
  cases ns with
  | nil =>
    by_cases hx : x = "" <;>
      simp [consText, hx, canonicalNodes, canonicalNode, renderNodes, renderNode, escape,
        Style.textEscape, Style.canonicalStyle]
  | cons n ns =>
    cases n with
    | text e =>
      simp [consText, canonicalNodes_cons, canonicalNode, renderNodes, renderNode, escape_append,
        Style.textEscape, Style.canonicalStyle, String.append_assoc]
    | _ =>
      by_cases hx : x = "" <;>
        simp [consText, hx, canonicalNodes_cons, canonicalNode, renderNodes, renderNode, escape,
          Style.textEscape, Style.canonicalStyle]

theorem canonicalNode_elem (s : List String) (d : String) (b : Bindings) (sp t : String)
    (as : List Attr) (cs : List Node) :
    canonicalNode s d b (.elem sp t as cs) =
      let b' := b ++ (as.filter (·.space = "xmlns")).map fun a => (a.key, a.value)
      let r := canonicalAttrs sp as s d b'
      [.elem sp t r.1 (canonicalNodes r.2.1 r.2.2 b' cs)] := by
  rw [canonicalNode]

mutual
theorem canonicalNodes_joinNode : ∀ (n : Node) (ns : List Node) (s : List String) (d : String)
    (b : Bindings),
    renderNodes .canonicalStyle (canonicalNodes s d b (joinNode n ns)) =
      renderNodes .canonicalStyle (canonicalNode s d b n) ++
        renderNodes .canonicalStyle (canonicalNodes s d b ns)
  | .elem sp t as cs, ns, s, d, b => by
    rw [joinNode_elem, canonicalNodes_cons, renderNodes_append, canonicalNode_elem,
      canonicalNode_elem]
    simp only [renderNodes, String.append_empty]
    rw [renderNode_elem_congr _ _ _ (canonicalNodes_joinTexts cs _ _ _)]
  | .text x, ns, s, d, b => by
    rw [joinNode, canonicalNodes_consText, escape_readableText]
    simp [canonicalNode, renderNodes, renderNode, Style.textEscape, Style.canonicalStyle]
  | .comment _, ns, s, d, b => by
    simp [joinNode, canonicalNodes_cons, canonicalNode, renderNodes]
  | .instruction _ _, ns, s, d, b => by
    simp [joinNode, canonicalNodes_cons, canonicalNode, renderNodes]
  | .directive _, ns, s, d, b => by
    simp [joinNode, canonicalNodes_cons, canonicalNode, renderNodes]
/-- The canonical form cannot tell joined character data from the data it joined. -/
theorem canonicalNodes_joinTexts : ∀ (ns : List Node) (s : List String) (d : String)
    (b : Bindings),
    renderNodes .canonicalStyle (canonicalNodes s d b (joinTexts ns)) =
      renderNodes .canonicalStyle (canonicalNodes s d b ns)
  | [], _, _, _ => rfl
  | n :: ns, s, d, b => by
    rw [joinTexts, canonicalNodes_joinNode, canonicalNodes_joinTexts ns, canonicalNodes_cons,
      renderNodes_append]
end

theorem canonicalNode_joined (s : List String) (d : String) (b : Bindings) (e : Element) :
    renderNodes .canonicalStyle (canonicalNode s d b e.joined.toNode) =
      renderNodes .canonicalStyle (canonicalNode s d b e.toNode) := by
  have h := canonicalNodes_joinNode e.toNode [] s d b
  simpa [Element.toNode, joinNode_elem, canonicalNodes_cons, canonicalNodes, renderNodes_append,
    Element.joined, renderNodes] using h

/-- A tree read back has the canonical form of the tree written. -/
theorem canonicalize_joined (e : Element) (ns : String) :
    canonicalize e.joined ns = canonicalize e ns := by
  have hsel : e.joined.selectAttr "xmlns" = e.selectAttr "xmlns" := rfl
  unfold canonicalize
  rw [hsel]
  split
  · exact canonicalNode_joined [] "" [] e
  · exact canonicalNode_joined [] "" [] { e with attrs := e.attrs ++ [⟨"", "xmlns", ns⟩] }

end EInvoice.Xml
