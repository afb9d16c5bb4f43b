import EInvoice.Xml.Node
import EInvoice.Xml.Name

/-!
# Writing element trees

Two styles of writing a tree:

* **canonical** — an element without children is written with a start and an end tag
  (`<a></a>`); character data escapes `&`, `<`, `>` and carriage return (`&#xD;`);
  attribute values are in double quotes and escape `&`, `<` and `"` and tab, newline and
  carriage return (`&#x9;`, `&#xA;`, `&#xD;`);
* **plain** — an element without children is written `<a/>`; character data and attribute
  values escape `&`, `<`, `>`, `'` and `"` as `&amp;`, `&lt;`, `&gt;`, `&apos;`, `&quot;`.

A third escaping (`Escape.numeric`), used for messages built from values, escapes `&`, `<`
and `>` by name and `"`, `'`, tab, newline and carriage return as numeric references.

In both styles a character that XML does not allow (control characters other than tab,
newline and carriage return, surrogates, `U+FFFE`, `U+FFFF`) is written as `U+FFFD`.
Comments are written `<!--…-->`, processing instructions `<?target body?>`, directives
`<!…>`. No indentation is added.
-/

namespace EInvoice.Xml

/-- Where an escaped text stands. -/
inductive Escape where
  /-- character data or attribute value, plain style -/
  | plain
  /-- character data, canonical style -/
  | text
  /-- attribute value, canonical style -/
  | attr
  /-- character data or attribute value with every special character escaped, quotes and
  line ends as numeric references -/
  | numeric
  deriving DecidableEq, Repr

/-- How one character is written. -/
def escapeChar (m : Escape) (c : Char) : String :=
  match c with
  | '&' => "&amp;"
  | '<' => "&lt;"
  | '>' => if m = .attr then ">" else "&gt;"
  | '\'' => if m = .plain then "&apos;" else if m = .numeric then "&#39;" else "'"
  | '"' => if m = .text then "\"" else if m = .numeric then "&#34;" else "&quot;"
  | '\t' => if m = .attr ∨ m = .numeric then "&#x9;" else "\t"
  | '\n' => if m = .attr ∨ m = .numeric then "&#xA;" else "\n"
  | '\r' => if m = .plain then "\r" else "&#xD;"
  | c => if isXmlChar c then c.toString else "�"

/-- A text with every character escaped. -/
def escape (m : Escape) (s : String) : String :=
  String.join (s.toList.map (escapeChar m))

/-- The style of writing: canonical or plain. -/
structure Style where
  canonical : Bool
  deriving DecidableEq, Repr

def Style.valueEscape (s : Style) : Escape := if s.canonical then .attr else .plain
def Style.textEscape (s : Style) : Escape := if s.canonical then .text else .plain

/-- An attribute as it is written inside a start tag (with the leading blank). -/
def renderAttr (s : Style) (a : Attr) : String :=
  " " ++ a.fullKey ++ "=\"" ++ escape s.valueEscape a.value ++ "\""

mutual
/-- A node as written in style `s`. -/
def renderNode (s : Style) : Node → String
  | .elem sp tag attrs children =>
    let name := fullName sp tag
    let open_ := "<" ++ name ++ String.join (attrs.map (renderAttr s))
    match children with
    | [] => if s.canonical then open_ ++ "></" ++ name ++ ">" else open_ ++ "/>"
    | _ => open_ ++ ">" ++ renderNodes s children ++ "</" ++ name ++ ">"
  | .text d => escape s.textEscape d
  | .comment d => "<!--" ++ d ++ "-->"
  | .instruction t b => "<?" ++ t ++ (if b.isEmpty then "" else " " ++ b) ++ "?>"
  | .directive d => "<!" ++ d ++ ">"
/-- Nodes written one after the other. -/
def renderNodes (s : Style) : List Node → String
  | [] => ""
  | n :: ns => renderNode s n ++ renderNodes s ns
end

def Style.canonicalStyle : Style := ⟨true⟩
def Style.plainStyle : Style := ⟨false⟩

namespace Element

/-- An element written in canonical style. -/
def render (e : Element) : String := renderNode Style.canonicalStyle e.toNode

/-- An element written in plain style. -/
def renderPlain (e : Element) : String := renderNode Style.plainStyle e.toNode

end Element

/-- The declaration that can open a written document. -/
def declaration : String := "<?xml version=\"1.0\" encoding=\"UTF-8\"?>"

/-- A document holding one element, written in canonical style, with or without the
declaration in front. -/
def serialize (e : Element) (withDeclaration : Bool) : String :=
  (if withDeclaration then declaration else "") ++ e.render

example : escape .attr "a\"<>\n" = "a&quot;&lt;>&#xA;" := by decide
example : (Element.render { tag := "a" }) = "<a></a>" := by decide

end EInvoice.Xml
