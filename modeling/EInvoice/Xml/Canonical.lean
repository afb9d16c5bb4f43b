import EInvoice.Xml.Writer
import EInvoice.Sorting.Quicksort

/-!
# Exclusive canonical form

The canonical form under which signed parts of a document are digested: an element is
detached from its tree, given a default namespace declaration when it has none, stripped of
its comments, and written with end tags always, text escaping `& < >` (and carriage
returns), and attribute escaping `& < "` and tab, line feed and carriage return.

Namespace declarations are written only where they are first used, in the manner of
exclusive XML canonicalization:

* an element with a prefix declares that prefix unless an ancestor in the detached part
  already did, with the URI declared for it there (the empty text when none is);
* an element without a prefix declares the default namespace when it differs from its
  parent's;
* an attribute with a prefix declares that prefix in the same way as an element does;
* no other declaration is written.

An attribute with the prefix `xml` declares nothing, but counts as a declaration for the
elements below it; an element with that prefix declares it like any other prefix. No prefix
is bound without a declaration, `xml` included: the namespace of an undeclared prefix is the
empty text.

On each element the default namespace comes first, then the prefix declarations sorted by
name, then the other attributes: those without a namespace first, then by namespace URI and
local name. The attributes are ordered by pattern-defeating quicksort (`Sorting.pdqSort`),
which is not stable, so attributes that tie keep the order that sort leaves them in.
-/

namespace EInvoice.Xml

/-- The namespace declarations seen from an element: prefix and URI, nearest last. -/
abbrev Bindings := List (String × String)

/-- The URI bound to a prefix, or the empty text. -/
def Bindings.lookup (b : Bindings) (p : String) : String :=
  match b.reverse.find? (·.1 = p) with
  | some (_, v) => v
  | none => ""

/-- Insert into a list sorted by `lt`, after the entries that do not come after it. -/
def insertSorted {α : Type} (lt : α → α → Bool) (x : α) : List α → List α
  | [] => [x]
  | y :: ys => if lt x y then x :: y :: ys else y :: insertSorted lt x ys

/-- A list sorted by `lt` (insertion sort, stable). -/
def sortBy {α : Type} (lt : α → α → Bool) (xs : List α) : List α := xs.foldl (fun acc x => insertSorted lt x acc) []

/-- The order of ordinary attributes: without a namespace first, then by URI and name. -/
def attrBefore (a b : String × Attr) : Bool :=
  if a.1.isEmpty ∧ !b.1.isEmpty then true
  else if b.1.isEmpty ∧ !a.1.isEmpty then false
  else decide ((a.1 ++ a.2.key) < (b.1 ++ b.2.key))

/-- The attributes one element is written with, and the prefixes and default namespace in
scope for its children, given those of its parent and the bindings seen from it. -/
def canonicalAttrs (space : String) (attrs : List Attr) (inScope : List String) (dflt : String)
    (b : Bindings) : List Attr × List String × String :=
  let current := match attrs.find? (·.key = "xmlns") with
    | some a => a.value
    | none => dflt
  -- the element's own prefix
  let (decls, scope, own) :=
    if !space.isEmpty then
      if inScope.contains space then (([] : List (String × String)), inScope, ([] : List Attr))
      else ([(space, b.lookup space)], inScope ++ [space], [])
    else if dflt ≠ current then ([], inScope, [⟨"", "xmlns", current⟩])
    else ([], inScope, [])
  -- prefixes of qualified attributes
  let (decls, scope) := attrs.foldl (fun (ds, sc) a =>
    if !a.space.isEmpty ∧ a.space ≠ "xmlns" ∧ !sc.contains a.space then
      (if a.space = "xml" then ds else ds ++ [(a.space, b.lookup a.space)], sc ++ [a.space])
    else (ds, sc)) (decls, scope)
  let ordinary := (attrs.filter fun a => a.space ≠ "xmlns" ∧ a.key ≠ "xmlns").map fun a =>
    (if a.space.isEmpty then "" else b.lookup a.space, a)
  let declAttrs := (sortBy (fun x y => decide (("xmlns:" ++ x.1) < ("xmlns:" ++ y.1)))
    (decls.foldl (fun acc d => if acc.any (·.1 = d.1) then acc else acc ++ [d]) [])).map
      fun (p, v) => (⟨"xmlns", p, v⟩ : Attr)
  (own ++ declAttrs ++ (Sorting.pdqSort attrBefore ordinary).map (·.2), scope, current)

mutual
/-- The canonical form of a node below an element, with the prefixes and default namespace in
scope and the bindings seen from it; comments are dropped. -/
def canonicalNode (inScope : List String) (dflt : String) (b : Bindings) : Node → List Node
  | .elem sp tag attrs children =>
    let b := b ++ (attrs.filter (·.space = "xmlns")).map fun a => (a.key, a.value)
    let (written, scope, current) := canonicalAttrs sp attrs inScope dflt b
    [.elem sp tag written (canonicalNodes scope current b children)]
  | .text d => [.text d]
  | .comment _ => []
  | n => [n]
/-- The canonical forms of a list of nodes. -/
def canonicalNodes (inScope : List String) (dflt : String) (b : Bindings) : List Node → List Node
  | [] => []
  | n :: ns => canonicalNode inScope dflt b n ++ canonicalNodes inScope dflt b ns
end

/-- The exclusive canonical form of an element detached from its tree, declaring `ns` as its
default namespace when it has no default namespace declaration. -/
def canonicalize (e : Element) (ns : String) : String :=
  let e := if (e.selectAttr "xmlns").isSome then e else { e with attrs := e.attrs ++ [⟨"", "xmlns", ns⟩] }
  renderNodes Style.canonicalStyle (canonicalNode [] "" [] e.toNode)

theorem canonicalNode_comment (s : List String) (d : String) (b : Bindings) (c : String) :
    canonicalNode s d b (.comment c) = [] := by
  simp [canonicalNode]

end EInvoice.Xml
