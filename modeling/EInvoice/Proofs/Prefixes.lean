import EInvoice.Proofs.Reread
import Mathlib

/-!
# Trees without prefixes, and the same trees in a prefix

A tree is *plain* over a vocabulary of names (`PlainNode`) when each of its elements has no
prefix, a name of the vocabulary that is a name without colon (`NCName`), and attributes that
declare nothing and do not repeat. A plain tree can be written and read back, and so can the
same tree written with every element in one prefix `p` (`Element.inPrefix`), where the default
declaration of the namespace becomes the declaration of `p`.

The second half is about rewriting: an edit that keeps every plain element keeps a plain tree
(`PlainNodes.mapElements`), and an edit that drops the prefix `p` wherever an ancestor declares
`p` for the namespace takes the tree in prefix `p` back to the plain tree
(`PlainNodes.mapElements_inPrefix`). Reading a document drops prefixes that way.

Last, `Element.descend` follows a path of child names, the way documents are read field by field.
-/

namespace EInvoice.Xml


/-- A name without a prefix: a name with no colon. -/
def NCName (t : String) : Prop := isName t.toList = true ∧ ':' ∉ t.toList

instance (t : String) : Decidable (NCName t) := inferInstanceAs (Decidable (_ ∧ _))

theorem decide_ne_colon {cs : List Char} (h : ':' ∉ cs) : ∀ c ∈ cs, decide (c ≠ ':') = true := by
  intro c hc
  simp only [ne_eq, decide_eq_true_eq]
  rintro rfl
  exact h hc

theorem span_of_not_mem {cs : List Char} (h : ':' ∉ cs) : cs.span (· ≠ ':') = (cs, []) := by
  rw [List.span_eq_takeWhile_dropWhile, List.takeWhile_eq_self_iff.2 (decide_ne_colon h),
    List.dropWhile_eq_nil_iff.2 (decide_ne_colon h)]

theorem isNameRest_of_isName {cs : List Char} (h : isName cs = true) : ∀ c ∈ cs, isNameRest c = true := by
  cases cs with
  | nil => simp [isName] at h
  | cons c cs =>
    simp only [isName, Bool.and_eq_true, List.all_eq_true] at h
    intro d hd
    rcases List.mem_cons.1 hd with rfl | hd
    · simp [isNameRest, h.1]
    · exact h.2 d hd

theorem splitName_of_colon_free {name : String} (h : ':' ∉ name.toList) :
    splitName name = ("", name) := by
  rw [splitName, span_of_not_mem h]

theorem answers_of_colon_free {name : String} (h : ':' ∉ name.toList) (c : Element) :
    Element.answers name c = (name == c.tag) := by
  simp [Element.answers, splitName_of_colon_free h, spaceMatches]

namespace NCName

variable {p t : String}

theorem nameReads (h : NCName t) : NameReads "" t := by
  have hname : fullName "" t = t := by simp [fullName]
  refine ⟨by rw [hname]; exact h.1, ?_⟩
  rw [hname, splitQName, span_of_not_mem h.2]

theorem nameReads_prefixed (hp : NCName p) (ht : NCName t) : NameReads p t := by
  have hpne : p ≠ "" := by rintro rfl; simp [NCName, isName] at hp
  have htne : t.toList ≠ [] := by intro h; simp [NCName, isName, h] at ht
  have hpl : p.toList ≠ [] := by simpa using hpne
  refine ⟨?_, ?_⟩
  · obtain ⟨c, cs, hcs⟩ := List.exists_cons_of_ne_nil hpl
    have hn := hp.1
    rw [hcs] at hn
    simp only [isName, Bool.and_eq_true, List.all_eq_true] at hn
    have ht' := isNameRest_of_isName ht.1
    simp [fullName, hpne, hcs, isName, hn.1]
    refine ⟨hn.2, by simp [isNameRest, isNameStart], ht'⟩
  · have hspan : (p.toList ++ ':' :: t.toList).span (· ≠ ':') = (p.toList, ':' :: t.toList) := by
      rw [List.span_eq_takeWhile_dropWhile, List.takeWhile_append_of_pos (decide_ne_colon hp.2),
        List.dropWhile_append_of_pos (decide_ne_colon hp.2)]
      simp
    have hname : (fullName p t).toList = p.toList ++ ':' :: t.toList := by simp [fullName, hpne]
    unfold splitQName
    rw [hname, hspan]
    simp [ht.2, htne, hpl]

end NCName

/-! ## Plain trees -/

/-- An attribute with no prefix that declares nothing, and whose value can be written. -/
def PlainAttr (a : Attr) : Prop :=
  a.space = "" ∧ NCName a.key ∧ a.key ≠ "xmlns" ∧ ∀ c ∈ a.value.toList, isXmlChar c = true

theorem PlainAttr.writable {a : Attr} (h : PlainAttr a) : AttrWritable a := by
  obtain ⟨hs, hk, -, hv⟩ := h
  exact ⟨hs ▸ hk.nameReads, hv⟩

mutual
/-- A node of a tree written without prefixes in the vocabulary `names`: each element is named
by a name of `names`, without prefix, and has plain attributes that do not repeat; every
other node is character data. -/
def PlainNode (names : List String) : Node → Prop
  | .elem sp t as cs =>
    sp = "" ∧ t ∈ names ∧ (∀ a ∈ as, PlainAttr a) ∧ (as.map (·.key)).Nodup ∧ PlainNodes names cs
  | .text _ => True
  | _ => False
/-- Nodes written without prefixes in the vocabulary `names`. -/
def PlainNodes (names : List String) : List Node → Prop
  | [] => True
  | n :: ns => PlainNode names n ∧ PlainNodes names ns
end

theorem nodup_of_plain {as : List Attr} (ha : ∀ a ∈ as, PlainAttr a) (hk : (as.map (·.key)).Nodup) :
    (as.map fun a => (a.space, a.key)).Nodup := by
  have : (as.map fun a => (a.space, a.key)) = (as.map (·.key)).map (fun k => ("", k)) := by
    simp only [List.map_map]
    exact List.map_congr_left fun a h => by simp [(ha a h).1]
  rw [this]
  exact hk.map fun _ _ h => by simpa using h

mutual
theorem PlainNode.writable {names : List String} (hnames : ∀ t ∈ names, NCName t) :
    ∀ n : Node, PlainNode names n → WritableNode n
  | .elem sp t as cs, ⟨hsp, ht, ha, hk, hcs⟩ => by
    subst hsp
    exact ⟨(hnames t ht).nameReads, fun a h => (ha a h).writable, nodup_of_plain ha hk,
      PlainNodes.writable hnames cs hcs⟩
  | .text _, _ => trivial
/-- A tree written without prefixes can be written and read back. -/
theorem PlainNodes.writable {names : List String} (hnames : ∀ t ∈ names, NCName t) :
    ∀ ns : List Node, PlainNodes names ns → WritableNodes ns
  | [], _ => trivial
  | n :: ns, ⟨hn, hns⟩ => ⟨PlainNode.writable hnames n hn, PlainNodes.writable hnames ns hns⟩
end

section Vocabulary

variable {names : List String}

@[simp] theorem plainNodes_nil : PlainNodes names [] := trivial

@[simp] theorem plainNodes_cons (n : Node) (ns : List Node) :
    PlainNodes names (n :: ns) ↔ PlainNode names n ∧ PlainNodes names ns := Iff.rfl

@[simp] theorem plainNodes_append (xs ys : List Node) :
    PlainNodes names (xs ++ ys) ↔ PlainNodes names xs ∧ PlainNodes names ys := by
  induction xs with
  | nil => simp
  | cons x xs ih => simp [ih, and_assoc]

@[simp] theorem plainNodes_map {α : Type} (g : α → Node) (xs : List α) :
    PlainNodes names (xs.map g) ↔ ∀ x ∈ xs, PlainNode names (g x) := by
  induction xs with
  | nil => simp
  | cons x xs ih => simp [ih]

@[simp] theorem plainNodes_ite (c : Prop) [Decidable c] (xs ys : List Node) :
    PlainNodes names (if c then xs else ys) ↔ (c → PlainNodes names xs) ∧ (¬c → PlainNodes names ys) := by
  by_cases hc : c <;> simp [hc]

end Vocabulary

mutual
theorem PlainNode.find_none {names : List String} {tag : String} (h : tag ∉ names) :
    ∀ n : Node, PlainNode names n → Node.find tag n = none
  | .elem _ t _ cs, ⟨_, ht, _, _, hcs⟩ => by
    have hne : t ≠ tag := by rintro rfl; exact h ht
    simp [Node.find, hne, PlainNodes.findIn_none h cs hcs]
  | .text _, _ => rfl
/-- A search for a name outside the vocabulary finds nothing in a plain tree. -/
theorem PlainNodes.findIn_none {names : List String} {tag : String} (h : tag ∉ names) :
    ∀ ns : List Node, PlainNodes names ns → Node.findIn tag ns = none
  | [], _ => rfl
  | n :: ns, ⟨hn, hns⟩ => by
    simp [Node.findIn, PlainNode.find_none h n hn, PlainNodes.findIn_none h ns hns]
end

/-! ## Prefixes -/

/-- Whether some element of a subtree has a prefix. -/
def hasPrefix : List Element → Element → Bool := fun _ e => !e.space.isEmpty

mutual
theorem anyElement_mono {p q : List Element → Element → Bool} (h : ∀ up e, p up e = true → q up e = true) :
    ∀ (up : List Element) (n : Node), Node.anyElement p up n = true → Node.anyElement q up n = true
  | up, .elem sp t as cs, hp => by
    simp only [Node.anyElement, Bool.or_eq_true] at hp ⊢
    exact hp.imp (h up _) (anyElementIn_mono h _ cs)
  | _, .text _, hp => hp
  | _, .comment _, hp => hp
  | _, .instruction _ _, hp => hp
  | _, .directive _, hp => hp
theorem anyElementIn_mono {p q : List Element → Element → Bool} (h : ∀ up e, p up e = true → q up e = true) :
    ∀ (up : List Element) (ns : List Node), Node.anyElementIn p up ns = true → Node.anyElementIn q up ns = true
  | _, [], hp => hp
  | up, n :: ns, hp => by
    simp only [Node.anyElementIn, Bool.or_eq_true] at hp ⊢
    exact hp.imp (anyElement_mono h up n) (anyElementIn_mono h up ns)
end

mutual
theorem PlainNode.noPrefix {names : List String} :
    ∀ (up : List Element) (n : Node), PlainNode names n → Node.anyElement hasPrefix up n = false
  | up, .elem sp t as cs, ⟨hsp, _, _, _, hcs⟩ => by
    simp [Node.anyElement, hasPrefix, hsp, PlainNodes.noPrefix _ cs hcs]
  | _, .text _, _ => rfl
/-- A tree written without prefixes has no element with a prefix. -/
theorem PlainNodes.noPrefix {names : List String} :
    ∀ (up : List Element) (ns : List Node), PlainNodes names ns → Node.anyElementIn hasPrefix up ns = false
  | _, [], _ => rfl
  | up, n :: ns, ⟨hn, hns⟩ => by
    simp [Node.anyElementIn, PlainNode.noPrefix up n hn, PlainNodes.noPrefix up ns hns]
end


mutual
theorem anyElement_hasPrefix_up :
    ∀ (up up' : List Element) (n : Node), Node.anyElement hasPrefix up n = Node.anyElement hasPrefix up' n
  | up, up', .elem sp t as cs => by
    simp only [Node.anyElement, hasPrefix, anyElementIn_hasPrefix_up _ (⟨sp, t, as, cs⟩ :: up')]
  | _, _, .text _ => rfl
  | _, _, .comment _ => rfl
  | _, _, .instruction _ _ => rfl
  | _, _, .directive _ => rfl
/-- Whether a subtree has an element with a prefix does not depend on the ancestors. -/
theorem anyElementIn_hasPrefix_up :
    ∀ (up up' : List Element) (ns : List Node), Node.anyElementIn hasPrefix up ns = Node.anyElementIn hasPrefix up' ns
  | _, _, [] => rfl
  | up, up', n :: ns => by
    simp only [Node.anyElementIn, anyElement_hasPrefix_up up up' n, anyElementIn_hasPrefix_up up up' ns]
end

theorem anyElementIn_append (p : List Element → Element → Bool) (up : List Element) (xs ys : List Node) :
    Node.anyElementIn p up (xs ++ ys) = (Node.anyElementIn p up xs || Node.anyElementIn p up ys) := by
  induction xs with
  | nil => simp [Node.anyElementIn]
  | cons x xs ih => simp [Node.anyElementIn, ih, Bool.or_assoc]

theorem findIn_append (tag : String) (xs ys : List Node) :
    Node.findIn tag (xs ++ ys) = (Node.findIn tag xs).or (Node.findIn tag ys) := by
  induction xs with
  | nil => simp [Node.findIn]
  | cons x xs ih =>
    simp only [List.cons_append, Node.findIn, ih]
    cases Node.find tag x <;> simp

theorem anyElementIn_consText (p : List Element → Element → Bool) (up : List Element) (d : String)
    (ns : List Node) : Node.anyElementIn p up (consText d ns) = Node.anyElementIn p up ns := by
  cases ns with
  | nil => by_cases hd : d = "" <;> simp [consText, hd, Node.anyElementIn, Node.anyElement]
  | cons n ns =>
    cases n <;> by_cases hd : d = "" <;> simp [consText, hd, Node.anyElementIn, Node.anyElement]

mutual
theorem anyElementIn_hasPrefix_joinNode : ∀ (up : List Element) (n : Node) (ns : List Node),
    Node.anyElementIn hasPrefix up (joinNode n ns) =
      (Node.anyElement hasPrefix up n || Node.anyElementIn hasPrefix up ns)
  | up, .elem sp t as cs, ns => by
    simp only [joinNode, Node.anyElementIn, Node.anyElement, anyElementIn_hasPrefix_joinTexts, hasPrefix,
      anyElementIn_hasPrefix_up _ (⟨sp, t, as, cs⟩ :: up)]
  | _, .text _, _ => by simp [joinNode, anyElementIn_consText, Node.anyElement]
  | _, .comment _, _ => rfl
  | _, .instruction _ _, _ => rfl
  | _, .directive _, _ => rfl
/-- Joining character data keeps which elements have a prefix. -/
theorem anyElementIn_hasPrefix_joinTexts : ∀ (up : List Element) (ns : List Node),
    Node.anyElementIn hasPrefix up (joinTexts ns) = Node.anyElementIn hasPrefix up ns
  | _, [] => rfl
  | up, n :: ns => by
    rw [joinTexts, anyElementIn_hasPrefix_joinNode, anyElementIn_hasPrefix_joinTexts up ns,
      Node.anyElementIn]
end

/-- Whether an element has a prefix somewhere: itself, or an element below it. -/
theorem Element.anyElement_hasPrefix (e : Element) :
    e.anyElement hasPrefix = (!e.space.isEmpty || Node.anyElementIn hasPrefix [] e.children) := by
  simp only [Element.anyElement, Element.toNode, Node.anyElement, hasPrefix]
  rw [anyElementIn_hasPrefix_up _ []]

theorem Element.find_of_ne {e : Element} {tag : String} (h : e.tag ≠ tag) :
    e.find tag = Node.findIn tag e.children := by
  simp [Element.find, Element.toNode, Node.find, h]

/-- An element none of whose elements has a prefix, itself included. -/
theorem Element.noPrefix_of_plain {names : List String} {e : Element} (hsp : e.space = "")
    (hcs : PlainNodes names e.children) : e.anyElement hasPrefix = false := by
  simp [Element.anyElement, Element.toNode, Node.anyElement, hasPrefix, hsp,
    PlainNodes.noPrefix _ _ hcs]

/-! ## Writing a tree in a prefix -/

/-- An attribute once its tree is written in prefix `p` for the namespace `uri`: the default
declaration of `uri` becomes the declaration of `p`. -/
def prefixDeclaration (uri p : String) (a : Attr) : Attr :=
  if a.space = "" ∧ a.key = "xmlns" ∧ a.value = uri then ⟨"xmlns", p, uri⟩ else a

mutual
/-- A node with every element put in prefix `p`, declared for `uri` where `uri` was the default
namespace. -/
def Node.inPrefix (uri p : String) : Node → Node
  | .elem _ t as cs => .elem p t (as.map (prefixDeclaration uri p)) (Node.inPrefixIn uri p cs)
  | n => n
/-- Nodes with every element put in prefix `p`. -/
def Node.inPrefixIn (uri p : String) : List Node → List Node
  | [] => []
  | n :: ns => Node.inPrefix uri p n :: Node.inPrefixIn uri p ns
end

/-- An element's tree written in prefix `p` for the namespace `uri`. -/
def Element.inPrefix (uri p : String) (e : Element) : Element :=
  ⟨p, e.tag, e.attrs.map (prefixDeclaration uri p), Node.inPrefixIn uri p e.children⟩

theorem PlainAttr.prefixDeclaration {a : Attr} (h : PlainAttr a) (uri p : String) :
    prefixDeclaration uri p a = a := by
  simp [Xml.prefixDeclaration, h.2.2.1]

theorem map_prefixDeclaration {as : List Attr} (h : ∀ a ∈ as, PlainAttr a) (uri p : String) :
    as.map (prefixDeclaration uri p) = as := by
  conv => rhs; rw [← List.map_id as]
  exact List.map_congr_left fun a ha => (h a ha).prefixDeclaration uri p

theorem inPrefixIn_consText (uri p d : String) (ns : List Node) :
    Node.inPrefixIn uri p (consText d ns) = consText d (Node.inPrefixIn uri p ns) := by
  cases ns with
  | nil => by_cases hd : d = "" <;> simp [consText, hd, Node.inPrefixIn, Node.inPrefix]
  | cons n ns =>
    cases n <;> by_cases hd : d = "" <;> simp [consText, hd, Node.inPrefixIn, Node.inPrefix]

mutual
theorem inPrefix_joinNode (uri p : String) : ∀ (n : Node) (ns : List Node),
    Node.inPrefixIn uri p (joinNode n ns) = joinNode (Node.inPrefix uri p n) (Node.inPrefixIn uri p ns)
  | .elem sp t as cs, ns => by
    simp only [joinNode, Node.inPrefixIn, Node.inPrefix, inPrefix_joinTexts uri p cs]
  | .text d, ns => by simp only [joinNode, Node.inPrefix, inPrefixIn_consText]
  | .comment _, _ => rfl
  | .instruction _ _, _ => rfl
  | .directive _, _ => rfl
/-- Putting a tree in a prefix and joining its character data can be done in either order. -/
theorem inPrefix_joinTexts (uri p : String) : ∀ ns : List Node,
    Node.inPrefixIn uri p (joinTexts ns) = joinTexts (Node.inPrefixIn uri p ns)
  | [] => rfl
  | n :: ns => by
    rw [joinTexts, inPrefix_joinNode, inPrefix_joinTexts uri p ns, Node.inPrefixIn, joinTexts]
end

theorem Element.inPrefix_joined (uri p : String) (e : Element) :
    (e.inPrefix uri p).joined = e.joined.inPrefix uri p := by
  simp [Element.inPrefix, Element.joined, inPrefix_joinTexts]

mutual
theorem PlainNode.writable_inPrefix {names : List String} (hnames : ∀ t ∈ names, NCName t)
    {uri p : String} (hp : NCName p) : ∀ n : Node, PlainNode names n → WritableNode (Node.inPrefix uri p n)
  | .elem sp t as cs, ⟨_, ht, ha, hk, hcs⟩ => by
    simp only [Node.inPrefix, map_prefixDeclaration ha]
    exact ⟨hp.nameReads_prefixed (hnames t ht), fun a h => (ha a h).writable, nodup_of_plain ha hk,
      PlainNodes.writable_inPrefix hnames hp cs hcs⟩
  | .text _, _ => trivial
/-- A tree written without prefixes can also be written in a prefix and read back. -/
theorem PlainNodes.writable_inPrefix {names : List String} (hnames : ∀ t ∈ names, NCName t)
    {uri p : String} (hp : NCName p) :
    ∀ ns : List Node, PlainNodes names ns → WritableNodes (Node.inPrefixIn uri p ns)
  | [], _ => trivial
  | n :: ns, ⟨hn, hns⟩ =>
    ⟨PlainNode.writable_inPrefix hnames hp n hn, PlainNodes.writable_inPrefix hnames hp ns hns⟩
end

theorem plainNodes_consText {names : List String} (d : String) {ns : List Node}
    (h : PlainNodes names ns) : PlainNodes names (consText d ns) := by
  cases ns with
  | nil => by_cases hd : d = "" <;> simp [consText, hd, PlainNodes, PlainNode]
  | cons n ns =>
    cases n <;> by_cases hd : d = "" <;>
      simp_all [consText, PlainNodes, PlainNode]

mutual
theorem PlainNode.joinNode {names : List String} : ∀ (n : Node) (ns : List Node),
    PlainNode names n → PlainNodes names ns → PlainNodes names (joinNode n ns)
  | .elem _ _ _ cs, _, ⟨hsp, ht, ha, hk, hcs⟩, hns =>
    ⟨⟨hsp, ht, ha, hk, PlainNodes.joinTexts cs hcs⟩, hns⟩
  | .text _, _, _, hns => plainNodes_consText _ hns
/-- Joining character data keeps a tree written without prefixes. -/
theorem PlainNodes.joinTexts {names : List String} :
    ∀ ns : List Node, PlainNodes names ns → PlainNodes names (joinTexts ns)
  | [], _ => trivial
  | n :: ns, ⟨hn, hns⟩ => PlainNode.joinNode n _ hn (PlainNodes.joinTexts ns hns)
end

/-! ## Rewriting elements -/

/-- An element with plain attributes declares no prefix. -/
theorem declared_of_plain {e : Element} (h : ∀ a ∈ e.attrs, PlainAttr a) {p : String} (hp : p ≠ "") :
    e.declared p = none := by
  have : ∀ a ∈ e.attrs, ¬(a.space == "xmlns" && a.key == p) = true := by
    intro a ha
    simp [(h a ha).1]
  simp [Element.declared, hp, List.find?_eq_none.2 this]

mutual
/-- An edit that keeps every plain element as it is keeps a plain tree. -/
theorem PlainNode.mapElements {names : List String} {f : ElementEdit}
    (hf : ∀ up (e : Element), e.space = "" → (∀ a ∈ e.attrs, PlainAttr a) → f up e = (e.space, e.attrs)) :
    ∀ (up : List Element) (n : Node), PlainNode names n → Node.mapElements f up n = n
  | up, .elem sp t as cs, ⟨hsp, _, ha, _, hcs⟩ => by
    simp only [Node.mapElements, hf up ⟨sp, t, as, cs⟩ hsp ha,
      PlainNodes.mapElements hf _ cs hcs]
  | _, .text _, _ => rfl
theorem PlainNodes.mapElements {names : List String} {f : ElementEdit}
    (hf : ∀ up (e : Element), e.space = "" → (∀ a ∈ e.attrs, PlainAttr a) → f up e = (e.space, e.attrs)) :
    ∀ (up : List Element) (ns : List Node), PlainNodes names ns → Node.mapElementsIn f up ns = ns
  | _, [], _ => rfl
  | up, n :: ns, ⟨hn, hns⟩ => by
    simp only [Node.mapElementsIn, PlainNode.mapElements hf up n hn, PlainNodes.mapElements hf up ns hns]
end

mutual
/-- An edit that drops the prefix `p` of each element whose ancestors declare `p` for `uri`
takes a plain tree written in prefix `p` back to the plain tree. -/
theorem PlainNode.mapElements_inPrefix {names : List String} {f : ElementEdit} {uri p : String}
    (hp : p ≠ "")
    (hf : ∀ up (e : Element), e.space = p → (∀ a ∈ e.attrs, PlainAttr a) →
      up.findSome? (·.declared p) = some uri → f up e = ("", e.attrs)) :
    ∀ (up : List Element) (n : Node), up.findSome? (·.declared p) = some uri → PlainNode names n →
      Node.mapElements f up (Node.inPrefix uri p n) = n
  | up, .elem sp t as cs, hup, ⟨hsp, _, ha, _, hcs⟩ => by
    have hup' : (⟨p, t, as, Node.inPrefixIn uri p cs⟩ :: up : List Element).findSome? (·.declared p) =
        some uri := by
      rw [List.findSome?_cons, declared_of_plain (e := ⟨p, t, as, _⟩) ha hp]
      exact hup
    simp only [Node.inPrefix, map_prefixDeclaration ha, Node.mapElements,
      hf up ⟨p, t, as, Node.inPrefixIn uri p cs⟩ rfl ha hup, hsp,
      PlainNodes.mapElements_inPrefix hp hf _ cs hup' hcs]
  | _, .text _, _, _ => rfl
theorem PlainNodes.mapElements_inPrefix {names : List String} {f : ElementEdit} {uri p : String}
    (hp : p ≠ "")
    (hf : ∀ up (e : Element), e.space = p → (∀ a ∈ e.attrs, PlainAttr a) →
      up.findSome? (·.declared p) = some uri → f up e = ("", e.attrs)) :
    ∀ (up : List Element) (ns : List Node), up.findSome? (·.declared p) = some uri →
      PlainNodes names ns → Node.mapElementsIn f up (Node.inPrefixIn uri p ns) = ns
  | _, [], _, _ => rfl
  | up, n :: ns, hup, ⟨hn, hns⟩ => by
    simp only [Node.inPrefixIn, Node.mapElementsIn, PlainNode.mapElements_inPrefix hp hf up n hup hn,
      PlainNodes.mapElements_inPrefix hp hf up ns hup hns]
end

/-! ## Paths of child names -/

/-- The element at a path of child names, each the first child answering to its name. -/
def Element.descend (e : Element) : List String → Option Element
  | [] => some e
  | p :: ps => (e.selectElement p).bind (Element.descend · ps)

/-- The text of the element at a path of child names, if there is one. -/
def Element.textAt (e : Element) (path : List String) : Option String := (e.descend path).map Element.text

theorem descend_joined (e : Element) :
    ∀ path, e.joined.descend path = (e.descend path).map Element.joined
  | [] => rfl
  | p :: ps => by
    simp only [Element.descend, Element.selectElement_joined]
    cases e.selectElement p with
    | none => rfl
    | some c => exact descend_joined c ps

end EInvoice.Xml
