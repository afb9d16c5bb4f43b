import EInvoice.Xml.Token
import EInvoice.Text.Digits

/-!
# Reading a document

A document is read token by token into its top-level nodes. Start and end tags must nest:
an end tag closes the innermost open element and must name it exactly (prefix and local
name), and at the end of the text no element may be left open. Character data, comments,
processing instructions and directives become nodes where they stand; every run of
character data (and every CDATA section) is a node of its own.

An attribute that a start tag repeats (same prefix and local name) keeps its first place
and takes its last value.

The document's root is its first element; text alone, or a declaration alone, gives a
document without root.
-/

namespace EInvoice.Xml

open EInvoice.Text

/-- Why a text is not a document. -/
inductive ReadError where
  /-- malformed markup on a line (counted from 1) -/
  | invalid (line : Nat) (message : String)
  /-- a declaration with a version other than `1.0` -/
  | version (v : String)
  /-- an end tag that closes no open element, or an element left open -/
  | unbalanced
  deriving Repr, DecidableEq

/-- The text of a reading error. -/
def ReadError.message : ReadError → String
  | .invalid line m => "XML syntax error on line " ++ showInt line ++ ": " ++ m
  | .version v => "xml: unsupported version " ++ quote v ++ "; only version 1.0 is supported"
  | .unbalanced => "etree: invalid XML format"

/-- The line a reader stands on when `rest` of `input` is still unread. -/
def lineAt (input rest : List Char) : Nat :=
  1 + ((input.take (input.length - rest.length)).filter (· = '\n')).length

/-- An element being read: its name, attributes and the children read so far (reversed). -/
structure OpenElement where
  space : String
  tag : String
  attrs : List Attr
  children : List Node

/-- An open element with one more child. -/
def OpenElement.push (o : OpenElement) (n : Node) : OpenElement :=
  { o with children := n :: o.children }

/-- The finished element. -/
def OpenElement.close (o : OpenElement) : Node := .elem o.space o.tag o.attrs o.children.reverse

/-- Attributes with repeats merged: first place, last value. -/
def mergeAttrs (attrs : List Attr) : List Attr :=
  attrs.foldl (fun acc a =>
    if acc.any (fun b => b.space == a.space && b.key == a.key) then
      acc.map fun b => if b.space == a.space && b.key == a.key then { b with value := a.value } else b
    else acc ++ [a]) []

/-- The stack of open elements (innermost first) above the document's own level. -/
structure Stack where
  open_ : List OpenElement
  top : List Node

/-- A node added where the reader stands. -/
def Stack.push (st : Stack) (n : Node) : Stack :=
  match st.open_ with
  | [] => { st with top := n :: st.top }
  | o :: os => { st with open_ := o.push n :: os }

/-- The stack after one token, or `none` when the token closes no open element. -/
def Stack.step (st : Stack) : Token → Option Stack
  | .start sp tag attrs closed =>
    let o : OpenElement := ⟨sp, tag, mergeAttrs attrs, []⟩
    if closed then some (st.push o.close) else some { st with open_ := o :: st.open_ }
  | .stop sp tag =>
    match st.open_ with
    | o :: os => if o.tag = tag ∧ o.space = sp then some ({ st with open_ := os }.push o.close) else none
    | [] => none
  | .text d => some (st.push (.text d))
  | .comment d => some (st.push (.comment d))
  | .instruction t b => some (st.push (.instruction t b))
  | .directive d => some (st.push (.directive d))

/-- Read tokens from `s` into the stack; `fuel` bounds the number of tokens. -/
def readTokens (input : List Char) : Nat → Stack → List Char → Except ReadError (List Node)
  | 0, _, _ => .error .unbalanced
  | fuel + 1, st, s =>
    match nextToken s with
    | .error (.invalid m rest) => .error (.invalid (lineAt input rest) m)
    | .error (.version v) => .error (.version v)
    | .ok (none, _) => if st.open_.isEmpty then .ok st.top.reverse else .error .unbalanced
    | .ok (some t, rest) =>
      match st.step t with
      | some st' => readTokens input fuel st' rest
      | none => .error .unbalanced

/-- The top-level nodes of a document. -/
def readNodes (text : String) : Except ReadError (List Node) :=
  let cs := text.toList
  readTokens cs (cs.length + 1) ⟨[], []⟩ cs

/-- The root of a document: its first element. -/
def rootOf (nodes : List Node) : Option Element := nodes.findSome? Node.element?

/-- The root of the document in `text`, if it has one. -/
def readRoot (text : String) : Except ReadError (Option Element) := rootOf <$> readNodes text

example : (readNodes "<a>x</b>") = .error .unbalanced := by cbv
example : (readNodes "<a>&undefined;</a>") =
    .error (.invalid 1 "invalid character entity &undefined;") := by cbv

end EInvoice.Xml
