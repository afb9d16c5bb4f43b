import EInvoice.Yaml.Parser
import EInvoice.Yaml.Resolve

/-!
# Composing YAML events into nodes

The third stage of reading YAML: the events of the first document become a tree of nodes.
Only that document is read; the events after its end are never asked for, so faults further
on in the text go unnoticed.

A node records its tag, its text (a scalar's value, an alias's anchor name) and the line,
from 1, where it starts. Tags are settled here: an explicit tag other than `!` is kept, in its
short form (`!!int` for `tag:yaml.org,2002:int`); otherwise a quoted or block scalar is a
string, a plain `<<` is a merge key, a plain scalar gets the tag its text resolves to, and a
collection is `!!seq` or `!!map`.

An anchor names the node it stands on from the moment it is seen, so an alias inside the
anchored node refers to that node itself. Anchored nodes are kept in a table of slots, filled
when the node is complete; an alias holds its slot. A name anchored twice refers to the later
node from then on. An alias to a name never anchored is a fault.
-/

namespace EInvoice.Yaml

/-- A node of a YAML document. -/
inductive Node where
  /-- A scalar: its tag, its text, how it was written and whether its tag was explicit. -/
  | scalar (tag text : String) (style : ScalarStyle) (tagged : Bool) (line : Nat)
  /-- A sequence of nodes. -/
  | sequence (tag : String) (items : List Node) (line : Nat)
  /-- A mapping, as its key and value pairs in the order written. -/
  | mapping (tag : String) (entries : List (Node × Node)) (line : Nat)
  /-- An alias: the anchor name, the slot of the node it stands for, and its position in the
  text, which tells aliases apart. -/
  | alias (name : String) (slot : Nat) (pos : Nat) (line : Nat)
  deriving Repr, Inhabited

/-- The kinds of nodes, compared when looking for repeated keys. -/
inductive NodeKind where
  | scalar
  | sequence
  | mapping
  | alias
  deriving Repr, DecidableEq

def Node.kind : Node → NodeKind
  | .scalar .. => .scalar
  | .sequence .. => .sequence
  | .mapping .. => .mapping
  | .alias .. => .alias

/-- A node's tag; an alias has none. -/
def Node.tag : Node → String
  | .scalar t .. | .sequence t .. | .mapping t .. => t
  | .alias .. => ""

/-- A node's text: a scalar's value, an alias's name, nothing for a collection. -/
def Node.text : Node → String
  | .scalar _ v .. => v
  | .alias n .. => n
  | _ => ""

def Node.line : Node → Nat
  | .scalar _ _ _ _ l | .sequence _ _ l | .mapping _ _ l | .alias _ _ _ l => l

/-- A first document: its root, if it has one, and the anchored nodes by slot. -/
structure Document where
  root : Option Node
  slots : Array Node
  deriving Repr

def longTagPrefix : String := "tag:yaml.org,2002:"

/-- The short form of a tag: `!!x` for the YAML tag `x`. -/
def shortTag (tag : String) : String :=
  if tag.startsWith longTagPrefix then "!!" ++ (tag.drop longTagPrefix.length).toString else tag

/-- The state of the composer: the parser, an event read ahead, the anchors in scope and the
slots of anchored nodes. -/
structure Composer where
  parser : Parser
  pending : Option Event
  anchors : List (String × Nat)
  slots : Array Node

abbrev ComposeM := StateT Composer (Except Fault)

/-- The next event, read ahead and kept until taken. -/
def peekEvent : ComposeM Event := do
  let c ← get
  match c.pending with
  | some e => pure e
  | none =>
    let (e, p) ← nextEvent c.parser
    set { c with parser := p, pending := some e }
    pure e

/-- Take the next event. -/
def takeEvent : ComposeM Event := do
  let e ← peekEvent
  modify fun c => { c with pending := none }
  pure e

def composeFault {α : Type} (problem : String) : ComposeM α :=
  throw ⟨.composer, "", zeroMark, problem, zeroMark⟩

/-- Open a slot for an anchor, if there is one. -/
def openSlot (anchor : String) : ComposeM (Option Nat) := do
  if anchor.isEmpty then return none
  let c ← get
  let i := c.slots.size
  set { c with slots := c.slots.push default, anchors := (anchor, i) :: c.anchors }
  pure (some i)

/-- Fill a slot with its completed node. -/
def fillSlot (slot : Option Nat) (n : Node) : ComposeM Node := do
  if let some i := slot then modify fun c => { c with slots := c.slots.set! i n }
  pure n

/-- The tag of a node: an explicit one in short form, else the default given. -/
def settleTag (explicit default : String) : String × Bool :=
  if explicit.isEmpty || explicit = "!" then (default, false) else (shortTag explicit, true)

mutual

/-- The node starting at the next event. -/
def composeNode : Nat → ComposeM Node
  | 0 => composeFault "document nested too deeply"
  | fuel + 1 => do
    let e ← takeEvent
    let line := e.start.line + 1
    match e.kind with
    | .alias name =>
      match (← get).anchors.find? (·.1 = name) with
      | some (_, i) => pure (.alias name i e.start.index line)
      | none => composeFault ("unknown anchor '" ++ name ++ "' referenced")
    | .scalar anchor tag text style =>
      let default := if style ≠ .plain then "!!str"
        else if text = "<<" then "!!merge" else resolvedTag text
      let (t, tagged) := settleTag tag default
      let slot ← openSlot anchor
      fillSlot slot (.scalar t text style tagged line)
    | .sequenceStart anchor tag _ =>
      let slot ← openSlot anchor
      let items ← composeItems fuel []
      fillSlot slot (.sequence (settleTag tag "!!seq").1 items line)
    | .mappingStart anchor tag _ =>
      let slot ← openSlot anchor
      let entries ← composeEntries fuel []
      fillSlot slot (.mapping (settleTag tag "!!map").1 entries line)
    | _ => composeFault "unexpected event"

/-- The items of a sequence, up to its end. -/
def composeItems : Nat → List Node → ComposeM (List Node)
  | 0, _ => composeFault "document nested too deeply"
  | fuel + 1, acc => do
    if (← peekEvent).kind = .sequenceEnd then
      let _ ← takeEvent
      return acc.reverse
    let n ← composeNode fuel
    composeItems fuel (n :: acc)

/-- The entries of a mapping, up to its end. -/
def composeEntries : Nat → List (Node × Node) → ComposeM (List (Node × Node))
  | 0, _ => composeFault "document nested too deeply"
  | fuel + 1, acc => do
    if (← peekEvent).kind = .mappingEnd then
      let _ ← takeEvent
      return acc.reverse
    let k ← composeNode fuel
    let v ← composeNode fuel
    composeEntries fuel ((k, v) :: acc)

end

/-- The first document of a text. A text with a character YAML does not allow is refused
before anything else. -/
def compose (text : String) : Except Fault Document := do
  if !text.toList.all allowedChar then
    throw ⟨.reader, "", zeroMark, "control characters are not allowed", zeroMark⟩
  let fuel := 16 * (text.length + 4)
  let run : ComposeM (Option Node) := do
    let _ ← takeEvent
    let e ← peekEvent
    match e.kind with
    | .streamEnd => pure none
    | _ =>
      let _ ← takeEvent
      let n ← composeNode fuel
      let _ ← takeEvent
      pure (some n)
  let (root, c) ← run ⟨Parser.init text, none, [], #[]⟩
  pure ⟨root, c.slots⟩

theorem settleTag_untagged (d : String) : settleTag "" d = (d, false) := by
  simp [settleTag]

end EInvoice.Yaml
