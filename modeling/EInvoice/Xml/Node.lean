/-!
# Element trees

A document is a tree of nodes: elements, character data, comments, processing
instructions and directives. An element has a prefix (`space`, empty when it has none), a
local name (`tag`), attributes in document order, and children in document order.

Names are looked up the way markup is usually queried: a name `p:n` asks for local name
`n` with prefix `p`, a name without a colon asks for the local name only, whatever the
prefix. Namespace URIs are resolved through the `xmlns` and `xmlns:p` declarations of the
element and its ancestors.

The text of an element is its character data up to the first child element (comments in
between are skipped).
-/

namespace EInvoice.Xml

/-- An attribute: prefix (empty when none), local name and value. -/
structure Attr where
  space : String
  key : String
  value : String
  deriving Repr, DecidableEq, Inhabited

/-- A node of a document tree. -/
inductive Node where
  | elem (space tag : String) (attrs : List Attr) (children : List Node)
  | text (data : String)
  | comment (data : String)
  | instruction (target body : String)
  | directive (data : String)
  deriving Repr, Inhabited

/-- An element: prefix, local name, attributes and children. -/
structure Element where
  space : String := ""
  tag : String
  attrs : List Attr := []
  children : List Node := []
  deriving Repr, Inhabited

namespace Element

def toNode (e : Element) : Node := .elem e.space e.tag e.attrs e.children

end Element

namespace Node

/-- The element a node is, if it is one. -/
def element? : Node → Option Element
  | elem s t a c => some ⟨s, t, a, c⟩
  | _ => none

end Node

/-- A name split at its first colon: prefix and local part (`("", n)` without a colon). -/
def splitName (name : String) : String × String :=
  match name.toList.span (· ≠ ':') with
  | (_, []) => ("", name)
  | (p, _ :: rest) => (String.ofList p, String.ofList rest)

/-- Whether a looked-up prefix `want` accepts the prefix `have_`: an empty `want`
accepts every prefix. -/
def spaceMatches (want have_ : String) : Bool := want.isEmpty || want == have_

/-- The prefixed name of an element or attribute: `p:n`, or `n` without prefix. -/
def fullName (space local_ : String) : String :=
  if space.isEmpty then local_ else space ++ ":" ++ local_

namespace Attr

def fullKey (a : Attr) : String := fullName a.space a.key

/-- Whether this attribute declares a namespace (`xmlns` or `xmlns:p`). -/
def isDeclaration (a : Attr) : Bool :=
  a.space == "xmlns" || (a.space.isEmpty && a.key == "xmlns")

end Attr

namespace Element

def fullTag (e : Element) : String := fullName e.space e.tag

/-- The child elements, in order. -/
def childElements (e : Element) : List Element := e.children.filterMap Node.element?

/-- Whether an element answers to a looked-up name. -/
def answers (name : String) (c : Element) : Bool :=
  let (sp, t) := splitName name
  spaceMatches sp c.space && t == c.tag

/-- The first child element answering to `name`. -/
def selectElement (e : Element) (name : String) : Option Element :=
  e.childElements.find? (answers name)

/-- All child elements answering to `name`, in order. -/
def selectElements (e : Element) (name : String) : List Element :=
  e.childElements.filter (answers name)

/-- The first attribute answering to `key`. -/
def selectAttr (e : Element) (key : String) : Option Attr :=
  let (sp, k) := splitName key
  e.attrs.find? fun a => spaceMatches sp a.space && a.key == k

/-- The value of the first attribute answering to `key`, or `dflt`. -/
def attrValue (e : Element) (key : String) (dflt : String) : String :=
  match e.selectAttr key with
  | some a => a.value
  | none => dflt

/-- Set an attribute: the attribute with exactly this prefix and name gets the value, or a
new one is added at the end. -/
def setAttr (e : Element) (key value : String) : Element :=
  let (sp, k) := splitName key
  if e.attrs.any (fun a => a.space == sp && a.key == k) then
    { e with attrs := e.attrs.map fun a => if a.space == sp && a.key == k then { a with value } else a }
  else { e with attrs := e.attrs ++ [⟨sp, k, value⟩] }

/-- Remove the first attribute with exactly this prefix and name. -/
def removeAttr (e : Element) (key : String) : Element :=
  let (sp, k) := splitName key
  { e with attrs := e.attrs.eraseP fun a => a.space == sp && a.key == k }

/-- The character data at the start of a list of nodes, skipping comments, up to the first
node of another kind. -/
def leadingText : List Node → String
  | .text d :: rest => d ++ leadingText rest
  | .comment _ :: rest => leadingText rest
  | _ => ""

/-- The text of an element: its character data before the first child of another kind
(comments skipped). -/
def text (e : Element) : String := leadingText e.children

/-- The character data directly after a node, up to the next node of another kind. -/
def trailingText : List Node → String
  | .text d :: rest => d ++ trailingText rest
  | _ => ""

/-- Add a child at the end. -/
def addChild (e : Element) (n : Node) : Element := { e with children := e.children ++ [n] }

/-- The namespace URI declared for prefix `p` (`""` for the default namespace) on this
element, if any. -/
def declared (e : Element) (p : String) : Option String :=
  if p.isEmpty then (e.attrs.find? fun a => a.space.isEmpty && a.key == "xmlns").map (·.value)
  else (e.attrs.find? fun a => a.space == "xmlns" && a.key == p).map (·.value)

end Element

/-- The namespace URI of prefix `p` seen from an element whose ancestors are `up`
(nearest first): the nearest declaration, or `""`. -/
def resolve (e : Element) (up : List Element) (p : String) : String :=
  match e.declared p with
  | some v => v
  | none => match up.findSome? (fun a => a.declared p) with
    | some v => v
    | none => ""

/-- The namespace URI of an element, given its ancestors (nearest first). -/
def namespaceOf (e : Element) (up : List Element) : String := resolve e up e.space

end EInvoice.Xml
