import EInvoice.Yaml.Node
import EInvoice.Yaml.Resolve
import EInvoice.Clock.Duration
import EInvoice.Crypto.Base64
import EInvoice.Text.Quoted
import EInvoice.Text.Utf8

/-!
# Decoding YAML nodes into typed values

A document is read into a value of a schema: strings, booleans, integers, durations, optional
counts, lists of strings and records of named fields. Reading goes on past a node that does
not fit its place; each such node adds a type error, and the reading fails at the end if any
was found. Some faults stop reading at once: a tag that does not fit its text, an alias that
contains itself, a merge of something that is not a mapping, and runaway aliasing.

What a scalar gives each type:

* a string takes the scalar's text (a `!!binary` scalar its decoded bytes); null leaves it;
* a boolean takes `true` and `false` in their spellings, and the words `y`, `yes`, `on`,
  `n`, `no`, `off` in lower case, capitalised or upper case, even when quoted;
* an integer takes an integer in the signed 64-bit range, or a floating-point number up to
  `2^63` truncated toward zero (a number outside the range becomes `-2^63`);
* a duration takes only a text that reads as a duration;
* an optional count takes a non-negative integer or a floating-point number up to `2^64`,
  and null makes it absent;
* a list of strings takes a sequence, keeping the items that read as strings; null empties it;
* a record takes a mapping: each key read as a string names a field, unknown ones are
  skipped. A key written twice in one mapping is an error, and the mapping is then not read.
  A merge key `<<` takes the fields of a mapping, or of a sequence of mappings, that the
  record's own keys do not set, after those keys.

An alias is read as the node it names, each time it is met.
-/

namespace EInvoice.Yaml

open EInvoice.Text EInvoice.Clock EInvoice.Crypto

/-- The types a document is read into. -/
inductive Schema where
  | text
  | flag
  | integer
  | duration
  | count
  | texts
  | record (name : String) (fields : List (String × Schema))
  deriving Repr, Inhabited

/-- The name of a type in messages. -/
def Schema.name : Schema → String
  | .text => "string"
  | .flag => "bool"
  | .integer => "int"
  | .duration => "time.Duration"
  | .count => "uint"
  | .texts => "[]string"
  | .record n _ => n

/-- A value read from a document. -/
inductive Value where
  | text (s : String)
  | flag (b : Bool)
  | integer (v : Int)
  | count (v : Option Nat)
  | texts (v : Option (List String))
  | record (fields : List (String × Value))
  deriving Repr, Inhabited

mutual

/-- The value of a type before anything is read into it. -/
def Schema.zero : Schema → Value
  | .text => .text ""
  | .flag => .flag false
  | .integer | .duration => .integer 0
  | .count => .count none
  | .texts => .texts none
  | .record _ fields => .record (Schema.zeroFields fields)

/-- The fields of a record before anything is read into it. -/
def Schema.zeroFields : List (String × Schema) → List (String × Value)
  | [] => []
  | (k, s) :: rest => (k, s.zero) :: Schema.zeroFields rest

end

/-- A field of a record value, by key. -/
def Value.field (v : Value) (key : String) : Value :=
  match v with
  | .record fs => (fs.find? (·.1 = key)).map (·.2) |>.getD default
  | _ => default

def Value.asText : Value → String
  | .text s => s
  | _ => ""

def Value.asFlag : Value → Bool
  | .flag b => b
  | _ => false

def Value.asInt : Value → Int
  | .integer v => v
  | _ => 0

def Value.asCount : Value → Option Nat
  | .count v => v
  | _ => none

def Value.asTexts : Value → Option (List String)
  | .texts v => v
  | _ => none

/-- Set a field of a record value. -/
def Value.setField (v : Value) (key : String) (x : Value) : Value :=
  match v with
  | .record fs => .record (fs.map fun (k, old) => if k = key then (k, x) else (k, old))
  | other => other

/-- The state of reading: type errors so far, the aliases being followed (by position),
the keys already set by a merge in progress, and counts of reading steps. -/
structure DecodeState where
  errors : Array String
  following : List Nat
  merged : Option (List String)
  steps : Nat
  aliasSteps : Nat
  aliasDepth : Nat

abbrev DecodeM := StateT DecodeState (Except String)

/-- A fault that stops reading. -/
def stop {α : Type} (msg : String) : DecodeM α := throw ("yaml: " ++ msg)

/-- Whether the share of steps taken through aliases is too high: up to 99% in small
documents, falling to 10% in very large ones. -/
def excessiveAliasing (steps aliasSteps : Nat) : Bool :=
  aliasSteps > 100 && steps > 1000 &&
    (if steps ≤ 400000 then aliasSteps * 100 > 99 * steps
     else if steps ≥ 4000000 then aliasSteps * 10 > steps
     else aliasSteps * 360000000 + 89 * steps * (steps - 400000) > steps * 356400000)

/-- Count a reading step. -/
def countStep : DecodeM Unit := do
  let st ← get
  let aliasSteps := if st.aliasDepth > 0 then st.aliasSteps + 1 else st.aliasSteps
  set { st with steps := st.steps + 1, aliasSteps := aliasSteps }
  if excessiveAliasing (st.steps + 1) aliasSteps then stop "document contains excessive aliasing"

/-- The first `n` bytes of a text, stray bytes of a cut character shown as `U+FFFD`. -/
def cutBytes (n : Nat) (s : String) : String := decodeLossy ((encode s).take n)

/-- Record that a node does not fit a type. -/
def typeError (n : Node) (into : String) : DecodeM Unit := do
  let tag := n.tag
  let v := n.text
  let shown := if tag = "!!seq" || tag = "!!map" then ""
    else if (encode v).length > 10 then " `" ++ cutBytes 7 v ++ "...`" else " `" ++ v ++ "`"
  let msg := "line " ++ toString n.line ++ ": cannot unmarshal " ++ tag ++ shown ++ " into " ++ into
  modify fun st => { st with errors := st.errors.push msg }

/-- The value of a double converted to a signed 64-bit integer: truncated, or `-2^63` out
of range. -/
def toInt64 : Binary64 → Int
  | .finite neg q shift =>
    let t := truncate neg q shift
    if -(Int.pow 2 63 : Int) ≤ t && t < Int.pow 2 63 then t else -(Int.pow 2 63 : Int)
  | _ => -(Int.pow 2 63 : Int)

/-- The value of a double at most `2^64` converted to an unsigned 64-bit integer: below
`2^63` through the signed conversion, from there on by offsetting by `2^63`. -/
def toUInt64 (x : Binary64) : Nat :=
  match x with
  | .finite false q shift =>
    let t := truncate false q shift
    if t < Int.pow 2 63 then t.toNat
    else
      let y := t - Int.pow 2 63
      (if y < Int.pow 2 63 then y.toNat else Nat.pow 2 63) ||| Nat.pow 2 63
  | x => (toInt64 x % Int.pow 2 64).toNat

/-- The two spellings lists of booleans accepted from strings. -/
def yesWord (s : String) : Bool :=
  s = "y" || s = "Y" || s = "yes" || s = "Yes" || s = "YES" || s = "on" || s = "On" || s = "ON"

def noWord (s : String) : Bool :=
  s = "n" || s = "N" || s = "no" || s = "No" || s = "NO" || s = "off" || s = "Off" || s = "OFF"

/-- What a resolved scalar makes of a value of a type; none when it does not fit. A null
returns the value unchanged for types it does not empty. -/
def scalarValue (schema : Schema) (text : String) (r : Scalar) (old : Value) : Option (Bool × Value) :=
  match r with
  | .null =>
    match schema with
    | .count => some (true, .count none)
    | .texts => some (true, .texts none)
    | _ => some (false, old)
  | _ =>
    match schema, r with
    | .text, .text s => some (true, .text s)
    | .text, _ => some (true, .text text)
    | .flag, .bool b => some (true, .flag b)
    | .flag, .text s => if yesWord s then some (true, .flag true)
        else if noWord s then some (true, .flag false) else none
    | .integer, .int v => if v < Int.pow 2 63 then some (true, .integer v) else none
    | .integer, .float x => if x.atMostPow 63 then some (true, .integer (toInt64 x)) else none
    | .duration, .text s => (parseDuration s).map fun d => (true, .integer d)
    | .count, .int v => if v ≥ 0 then some (true, .count (some v.toNat)) else none
    | .count, .float x => if x.atMostPow 64 then some (true, .count (some (toUInt64 x))) else none
    | _, _ => none

/-- The resolution of a scalar node as it is read: a string when its tag says so, a decoded
`!!binary`, or its text resolved under its tag. -/
def resolveNode (tag text : String) : DecodeM (String × Scalar) := do
  if tag = "!!str" then return ("!!str", .text text)
  match resolve tag text with
  | .error e => stop e
  | .ok (rtag, r) =>
    if rtag = "!!binary" then
      match Base64.decode text with
      | .ok bs => pure (rtag, .text (decodeLossy bs))
      | .error _ => stop "!!binary value contains invalid base64 data"
    else pure (rtag, r)

/-- The pairs of repeated keys in a mapping, each later one with the line of the earlier. -/
def repeatedKeys (entries : List (Node × Node)) : List String :=
  let keys := entries.map (·.1)
  (keys.zipIdx.flatMap fun (ki, i) =>
    (keys.drop (i + 1)).filterMap fun kj =>
      if ki.kind = kj.kind && ki.text = kj.text then
        some ("line " ++ toString kj.line ++ ": mapping key " ++ quote kj.text ++
          " already defined at line " ++ toString ki.line)
      else none)

/-- A key of a mapping being merged into a record, as the string it reads as, if it reads as
one; aliases are followed to their scalar. -/
def keyText (slots : Array Node) : Nat → Node → Option String
  | 0, _ => none
  | fuel + 1, n =>
    match n with
    | .scalar tag text _ _ _ =>
      if tag = "!!str" then some text
      else match resolve tag text with
        | .ok ("!!binary", _) => (Base64.decode text).toOption.map decodeLossy
        | .ok (_, .text s) => some s
        | .ok ("!!timestamp", _) => some text
        | _ => none
    | .alias _ slot _ _ => keyText slots fuel (slots.getD slot default)
    | _ => none

/-- The node an alias names, or the node itself. -/
def target (slots : Array Node) : Node → Node
  | .alias _ slot _ _ => slots.getD slot default
  | n => n

def isMapping : Node → Bool
  | .mapping .. => true
  | _ => false

/-- Whether a key is the merge key `<<`. -/
def isMergeKey : Node → Bool
  | .scalar tag "<<" _ _ _ => tag = "!!merge" || tag = "" || tag = "!"
  | _ => false

/-- The fault of a merge key whose value is not mappings. -/
def wantMap : String := "map merge requires map or sequence of maps as the value"

mutual

/-- Read a node into a value of a schema: whether it was read, and the value after. -/
def unmarshal (slots : Array Node) : Nat → Schema → Node → Value → DecodeM (Bool × Value)
  | 0, _, _, v => pure (false, v)
  | fuel + 1, schema, n, v => do
    countStep
    match n with
    | .alias name slot pos _ =>
      let st ← get
      if st.following.contains pos then
        stop ("anchor '" ++ name ++ "' value contains itself")
      set { st with following := pos :: st.following, aliasDepth := st.aliasDepth + 1 }
      let r ← unmarshal slots fuel schema (slots.getD slot default) v
      modify fun st => { st with following := st.following.erase pos }
      modify fun st => { st with aliasDepth := st.aliasDepth - 1 }
      pure r
    | .scalar tag text _ _ _ =>
      let (_, r) ← resolveNode tag text
      match scalarValue schema text r v with
      | some res => pure res
      | none =>
        typeError n schema.name
        pure (false, v)
    | .sequence _ items _ =>
      match schema with
      | .texts =>
        let kept ← readItems slots fuel items []
        pure (true, .texts (some kept))
      | _ =>
        typeError n schema.name
        pure (false, v)
    | .mapping _ entries _ =>
      let repeated := repeatedKeys entries
      if !repeated.isEmpty then
        modify fun st => { st with errors := st.errors ++ repeated.toArray }
        return (false, v)
      match schema with
      | .record name fields =>
        let captured := (← get).merged
        modify fun st => { st with merged := none }
        let (v, captured, _, mergeNode) ← readEntries slots fuel name fields entries v captured [] none
        modify fun st => { st with merged := captured }
        match mergeNode with
        | some m => let v ← mergeInto slots fuel schema entries m v; pure (true, v)
        | none => pure (true, v)
      | _ =>
        typeError n schema.name
        pure (false, v)

/-- The items of a sequence that read as strings. -/
def readItems (slots : Array Node) : Nat → List Node → List String → DecodeM (List String)
  | 0, _, acc => pure acc.reverse
  | _, [], acc => pure acc.reverse
  | fuel + 1, n :: rest, acc => do
    let (ok, v) ← unmarshal slots fuel .text n (.text "")
    readItems slots fuel rest (if ok then v.asText :: acc else acc)

/-- The entries of a mapping read into a record: the value after, the merged keys after,
the fields set and the value of the last merge key. -/
def readEntries (slots : Array Node) : Nat → String → List (String × Schema) →
    List (Node × Node) → Value → Option (List String) → List String → Option Node →
    DecodeM (Value × Option (List String) × List String × Option Node)
  | 0, _, _, _, v, merged, done, m => pure (v, merged, done, m)
  | _, _, _, [], v, merged, done, m => pure (v, merged, done, m)
  | fuel + 1, name, fields, (k, x) :: rest, v, merged, done, m => do
    if isMergeKey k then
      return ← readEntries slots fuel name fields rest v merged done (some x)
    let (ok, key) ← unmarshal slots fuel .text k (.text "")
    if !ok then
      return ← readEntries slots fuel name fields rest v merged done m
    let key := key.asText
    if merged.any (·.contains key) then
      return ← readEntries slots fuel name fields rest v merged done m
    let merged := merged.map (key :: ·)
    match fields.find? (·.1 = key) with
    | none => readEntries slots fuel name fields rest v merged done m
    | some (_, fs) =>
      if done.contains key then
        let msg := "line " ++ toString k.line ++ ": field " ++ key ++ " already set in type " ++ name
        modify fun st => { st with errors := st.errors.push msg }
        readEntries slots fuel name fields rest v merged done m
      else
        let (_, fv) ← unmarshal slots fuel fs x (v.field key)
        readEntries slots fuel name fields rest (v.setField key fv) merged (key :: done) m

/-- Merge the fields of a mapping, or of a sequence of mappings, into a record. -/
def mergeInto (slots : Array Node) : Nat → Schema → List (Node × Node) → Node → Value →
    DecodeM Value
  | 0, _, _, _, v => pure v
  | fuel + 1, schema, parent, m, v => do
    let saved := (← get).merged
    if saved.isNone then
      modify fun st => { st with merged := some (parent.filterMap fun (k, _) => keyText slots fuel k) }
    let v ← match m with
      | .mapping .. => do let (_, v) ← unmarshal slots fuel schema m v; pure v
      | .alias .. =>
        if !isMapping (target slots m) then stop wantMap
        let (_, v) ← unmarshal slots fuel schema m v
        pure v
      | .sequence _ items _ => mergeItems slots fuel schema items v
      | _ => stop wantMap
    if saved.isNone then modify fun st => { st with merged := none }
    pure v

/-- Merge each mapping of a sequence in turn. -/
def mergeItems (slots : Array Node) : Nat → Schema → List Node → Value → DecodeM Value
  | 0, _, _, v => pure v
  | _, _, [], v => pure v
  | fuel + 1, schema, n :: rest, v => do
    if !isMapping (target slots n) then stop wantMap
    let (_, v) ← unmarshal slots fuel schema n v
    mergeItems slots fuel schema rest v

end

/-- Read a document into a value of a schema, starting from `init`: the value, or the
fault that stopped reading, or the type errors found. -/
def decodeDocument (doc : Document) (schema : Schema) (init : Value) (fuel : Nat) :
    Except String (List String × Value) :=
  match doc.root with
  | none => .ok ([], init)
  | some root =>
    let run : DecodeM Value := do
      countStep
      let (_, v) ← unmarshal doc.slots fuel schema root init
      pure v
    match run ⟨#[], [], none, 0, 0, 0⟩ with
    | .ok (v, st) => .ok (st.errors.toList, v)
    | .error e => .error e

theorem scalarValue_text (s : String) (r : Scalar) (old : Value) (h : r ≠ .null) :
    scalarValue .text s r old = some (true, .text (match r with | .text t => t | _ => s)) := by
  cases r with
  | null => exact absurd rfl h
  | _ => simp [scalarValue]

end EInvoice.Yaml
