import EInvoice.Xml.Node

/-!
# Searching and rewriting element trees

* `Element.find` is the first element of a subtree, in document order (the element itself
  first, then depth first through its children), whose local name is the one asked for,
  whatever its prefix.
* `Element.mapElements` edits every element of a subtree; the edit of an element sees
  the element (before its children are rewritten) and its ancestors (nearest first, as they
  were before the edit), so that namespace prefixes resolve as in the tree it was given.

Main statement: `find_self` (an element answers a search for its own local name).
-/

namespace EInvoice.Xml

mutual
/-- The first element named `tag` (local name) in a node's subtree. -/
def Node.find (tag : String) : Node → Option Element
  | .elem s t a c => if t = tag then some ⟨s, t, a, c⟩ else Node.findIn tag c
  | _ => none
/-- The first element named `tag` in the subtrees of a list of nodes. -/
def Node.findIn (tag : String) : List Node → Option Element
  | [] => none
  | n :: ns =>
    match Node.find tag n with
    | some e => some e
    | none => Node.findIn tag ns
end

/-- The first element named `tag` (local name, any prefix) in an element's subtree, the
element itself included. -/
def Element.find (e : Element) (tag : String) : Option Element := Node.find tag e.toNode

/-- How an element is rewritten: given the ancestors (nearest first) and the element, its
new prefix and attributes. -/
abbrev ElementEdit := List Element → Element → String × List Attr

mutual
/-- A node's subtree with every element rewritten by `f`; `up` are its ancestors. -/
def Node.mapElements (f : ElementEdit) (up : List Element) : Node → Node
  | .elem s t a c =>
    let e : Element := ⟨s, t, a, c⟩
    let (s', a') := f up e
    .elem s' t a' (Node.mapElementsIn f (e :: up) c)
  | n => n
/-- A list of nodes with every element in their subtrees rewritten by `f`. -/
def Node.mapElementsIn (f : ElementEdit) (up : List Element) : List Node → List Node
  | [] => []
  | n :: ns => Node.mapElements f up n :: Node.mapElementsIn f up ns
end

/-- An element's subtree with every element rewritten by `f`; `up` are its ancestors. -/
def Element.mapElements (e : Element) (f : ElementEdit) (up : List Element) : Element :=
  match Node.mapElements f up e.toNode with
  | .elem s t a c => ⟨s, t, a, c⟩
  | _ => e

mutual
/-- Whether some element of a node's subtree satisfies `p` (given its ancestors). -/
def Node.anyElement (p : List Element → Element → Bool) (up : List Element) : Node → Bool
  | .elem s t a c =>
    let e : Element := ⟨s, t, a, c⟩
    p up e || Node.anyElementIn p (e :: up) c
  | _ => false
/-- Whether some element in the subtrees of a list of nodes satisfies `p`. -/
def Node.anyElementIn (p : List Element → Element → Bool) (up : List Element) : List Node → Bool
  | [] => false
  | n :: ns => Node.anyElement p up n || Node.anyElementIn p up ns
end

/-- Whether some element of an element's subtree satisfies `p`. -/
def Element.anyElement (e : Element) (p : List Element → Element → Bool) : Bool :=
  Node.anyElement p [] e.toNode

theorem find_self (e : Element) : e.find e.tag = some e := by
  simp [Element.find, Element.toNode, Node.find]

end EInvoice.Xml
