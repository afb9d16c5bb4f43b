import EInvoice.Xml.Node
import EInvoice.Xml.Name
import EInvoice.Text.Quoted

/-!
# Reading markup into tokens

A text is read one token at a time: a start tag (with its attributes, and whether it closes
itself as in `<a/>`), an end tag, character data, a comment, a processing instruction or a
directive (`<!DOCTYPE …>`). The rules are those of XML 1.0 with a strict reader:

* names are `prefix:local` or `local`; a name with two colons is refused;
* attribute values are quoted with `"` or `'`, and `<` may not stand in them;
* character data and attribute values decode the five predefined entities and character
  references; `]]>` may not stand in character data; a carriage return, alone or before a
  line feed, becomes one line feed; every decoded character must be one that XML allows;
* a CDATA section is character data taken as it is, up to `]]>`;
* a comment may not hold `--` other than in its closing `-->`;
* a declaration `<?xml …?>` with a version other than `1.0` is refused;
* in a directive, quoted text and nested `<…>` are skipped over, and an inner comment
  becomes one blank.

A fault records its message and the input that was still unread when it was found, which
gives its line. Reading never moves backwards, so this is always a suffix of the text.
-/

namespace EInvoice.Xml

open EInvoice.Text

/-- A piece of markup. -/
inductive Token where
  /-- `<p:t a="v">`; `closed` when written `<p:t …/>` -/
  | start (space tag : String) (attrs : List Attr) (closed : Bool)
  /-- `</p:t>` -/
  | stop (space tag : String)
  | text (data : String)
  | comment (data : String)
  | instruction (target body : String)
  | directive (data : String)
  deriving Repr, Inhabited, DecidableEq

/-- Why a text cannot be read. -/
inductive Fault where
  /-- malformed markup, with the input left unread where it was found -/
  | invalid (message : String) (rest : List Char)
  /-- a declaration that names a version other than `1.0` -/
  | version (v : String)
  deriving Repr, Inhabited

/-- A fault in the markup found with `rest` unread. -/
def fault {α : Type} (message : String) (rest : List Char) : Except Fault α :=
  .error (.invalid message rest)

/-- The input ended in the middle of a token. -/
def endOfInput {α : Type} : Except Fault α := fault "unexpected EOF" []

/-- Blanks between the parts of a tag. -/
def isSpace (c : Char) : Bool := c = ' ' ∨ c = '\r' ∨ c = '\n' ∨ c = '\t'

/-! ## Names -/

/-- The longest run of name characters at the front, checked to be a name; `none` when the
first character cannot go on a name. The run must not reach the end of the input. -/
def readName (s : List Char) : Except Fault ((Option String) × List Char) :=
  match s with
  | [] => endOfInput
  | c :: _ =>
    if !nameByte c then .ok (none, s)
    else
      let (run, rest) := s.span nameByte
      if rest.isEmpty then endOfInput
      else if isName run then .ok (some (String.ofList run), rest)
      else fault ("invalid XML name: " ++ String.ofList run) rest

/-- A name split into prefix and local part. A name with more than one colon is no name; a
name whose colon stands first or last has no prefix. -/
def splitQName (n : String) : Option (String × String) :=
  match n.toList.span (· ≠ ':') with
  | (_, []) => some ("", n)
  | (p, _ :: l) =>
    if ':' ∈ l then none
    else if p.isEmpty || l.isEmpty then some ("", n) else some (String.ofList p, String.ofList l)

/-- A prefixed name: `none` when no name stands at the front or it has two colons. -/
def readQName (s : List Char) : Except Fault ((Option (String × String)) × List Char) := do
  let (n, rest) ← readName s
  pure (n.bind splitQName, rest)

/-! ## Character data and attribute values -/

/-- What ends a run of text. -/
inductive TextEnd where
  /-- character data: ends before `<` or with the input -/
  | markup
  /-- a CDATA section: ends with `]]>` -/
  | section
  /-- an attribute value: ends with its quote -/
  | quote (q : Char)
  deriving DecidableEq, Repr

/-- The five predefined entities. -/
def predefinedEntity : String → Option Char
  | "lt" => some '<'
  | "gt" => some '>'
  | "amp" => some '&'
  | "apos" => some '\''
  | "quot" => some '"'
  | _ => none

/-- Whether `c` is a digit in base 16 (`hex`) or 10. -/
def isRefDigit (hex : Bool) (c : Char) : Bool :=
  c.isDigit || (hex && (('a' ≤ c && c ≤ 'f') || ('A' ≤ c && c ≤ 'F')))

/-- The value of a digit in base 16 or 10. -/
def refDigitValue (c : Char) : Nat :=
  if c.isDigit then c.toNat - 48
  else if 'a' ≤ c && c ≤ 'f' then c.toNat - 87
  else c.toNat - 55

/-- The number written by digits in base `b`. -/
def digitsValue (b : Nat) (ds : List Char) : Nat :=
  ds.foldl (fun n c => n * b + refDigitValue c) 0

/-- The character of a code point from a character reference: surrogates give `U+FFFD`. -/
def referencedChar (n : Nat) : Char :=
  if 0xD800 ≤ n ∧ n ≤ 0xDFFF then '�' else Char.ofNat n

/-- An entity or character reference after its `&`: the text it stands for and how many
characters it took. A reference to a code point above `U+10FFFF` (or with no digits, or
beyond 64 bits) and an unknown entity are faults; so is a reference without its `;`. -/
def readReference (s : List Char) : Except Fault (List Char × Nat) :=
  match s with
  | [] => endOfInput
  | '#' :: rest =>
    match rest with
    | [] => endOfInput
    | b :: rest' =>
      let hex := b = 'x'
      let from_ := if hex then rest' else rest
      let lead := if hex then "&#x" else "&#"
      let (ds, after) := from_.span (isRefDigit hex)
      let used := (if hex then 2 else 1) + ds.length
      match after with
      | [] => endOfInput
      | ';' :: after' =>
        let n := digitsValue (if hex then 16 else 10) ds
        if !ds.isEmpty ∧ n < Nat.pow 2 64 ∧ n ≤ 0x10FFFF then .ok ([referencedChar n], used + 1)
        else fault ("invalid character entity " ++ lead ++ String.ofList ds ++ ";") after'
      | _ => fault ("invalid character entity " ++ lead ++ String.ofList ds ++ " (no semicolon)") after
  | c :: _ =>
    let (run, after) := if nameByte c then s.span nameByte else ([], s)
    match after with
    | [] => endOfInput
    | ';' :: after' =>
      let name := String.ofList run
      match (if isName run then predefinedEntity name else none) with
      | some ch => .ok ([ch], run.length + 1)
      | none => fault ("invalid character entity &" ++ name ++ ";") after'
    | _ => fault ("invalid character entity &" ++ String.ofList run ++ " (no semicolon)") after

/-- A run of text up to its end (see `TextEnd`), decoded; `b0` and `b1` are the last two
characters read (`NUL` after a reference), `acc` the decoded text so far, reversed. -/
def textRun (e : TextEnd) (b0 b1 : Char) (acc : List Char) (s : List Char) :
    Except Fault (List Char × List Char) :=
  match s with
  | [] => if e = .section then fault "unexpected EOF in CDATA section" [] else .ok (acc.reverse, [])
  | b :: rest =>
    let quoted := match e with | .quote _ => true | _ => false
    if !quoted && b0 = ']' && b1 = ']' && b = '>' then
      if e = .section then .ok ((acc.drop 2).reverse, rest)
      else fault "unescaped ]]> not in CDATA section" rest
    else if b = '<' && e ≠ .section then
      if quoted then fault "unescaped < inside quoted string" rest
      else .ok (acc.reverse, s)
    else if e = .quote b then .ok (acc.reverse, rest)
    else if b = '&' && e ≠ .section then
      match readReference rest with
      | .error f => .error f
      | .ok (txt, n) => textRun e '\x00' '\x00' (txt.reverse ++ acc) (rest.drop n)
    else
      let acc := if b = '\r' then '\n' :: acc else if b1 = '\r' && b = '\n' then acc else b :: acc
      textRun e b1 b acc rest
termination_by s.length
decreasing_by all_goals (simp only [List.length_cons, List.length_drop]; omega)

/-- A run of text, decoded and checked to hold only characters that XML allows. -/
def readText (e : TextEnd) (s : List Char) : Except Fault (String × List Char) := do
  let (data, rest) ← textRun e '\x00' '\x00' [] s
  match data.find? (fun c => !isXmlChar c) with
  | some c => fault ("illegal character code " ++ codePoint c) rest
  | none => pure (String.ofList data, rest)

/-! ## Tags -/

/-- Blanks dropped from the front. -/
def skipSpace (s : List Char) : List Char := s.dropWhile isSpace

/-- The attributes of a start tag and its end (`>` or `/>`); `fuel` bounds the number of
attributes. -/
def readAttrs : Nat → List Attr → List Char → Except Fault ((List Attr × Bool) × List Char)
  | 0, _, _ => endOfInput
  | fuel + 1, acc, s =>
    match skipSpace s with
    | [] => endOfInput
    | '/' :: rest =>
      match rest with
      | [] => endOfInput
      | '>' :: rest' => .ok ((acc.reverse, true), rest')
      | _ :: rest' => fault "expected /> in element" rest'
    | '>' :: rest => .ok ((acc.reverse, false), rest)
    | s' => do
      let (n, rest) ← readQName s'
      match n with
      | none => fault "expected attribute name in element" rest
      | some (sp, key) =>
        match skipSpace rest with
        | [] => endOfInput
        | '=' :: rest2 =>
          match skipSpace rest2 with
          | [] => endOfInput
          | q :: rest3 =>
            if q = '"' ∨ q = '\'' then do
              let (v, rest4) ← readText (.quote q) rest3
              readAttrs fuel (⟨sp, key, v⟩ :: acc) rest4
            else fault "unquoted or missing attribute value in element" rest3
        | _ :: rest2 => fault "attribute name without = in element" rest2

/-- A start tag after its `<`. -/
def readStart (s : List Char) : Except Fault (Token × List Char) := do
  let (n, rest) ← readQName s
  match n with
  | none => fault "expected element name after <" rest
  | some (sp, tag) =>
    let ((attrs, closed), rest') ← readAttrs (rest.length + 1) [] rest
    pure (.start sp tag attrs closed, rest')

/-- An end tag after its `</`. -/
def readStop (s : List Char) : Except Fault (Token × List Char) := do
  let (n, rest) ← readQName s
  match n with
  | none => fault "expected element name after </" rest
  | some (sp, tag) =>
    match skipSpace rest with
    | [] => endOfInput
    | '>' :: rest' => pure (.stop sp tag, rest')
    | _ :: rest' => fault ("invalid characters between </" ++ tag ++ " and >") rest'

/-! ## Comments, processing instructions and directives -/

/-- The body of a comment after `<!--`, up to `-->`; `--` may not stand elsewhere. -/
def commentBody : List Char → Except Fault ((List Char) × List Char)
  | '-' :: '-' :: '>' :: rest => .ok ([], rest)
  | '-' :: '-' :: _ :: rest => fault "invalid sequence \"--\" not allowed in comments" rest
  | ['-', '-'] => endOfInput
  | c :: rest => do
    let (body, rest') ← commentBody rest
    pure (c :: body, rest')
  | [] => endOfInput

/-- The body of a processing instruction, up to `?>`. -/
def instructionBody : List Char → Except Fault ((List Char) × List Char)
  | '?' :: '>' :: rest => .ok ([], rest)
  | c :: rest => do
    let (body, rest') ← instructionBody rest
    pure (c :: body, rest')
  | [] => endOfInput

/-- The value of `param="…"` (or with single quotes) inside a declaration, the first
occurrence of `param=` that a quote follows; `fuel` bounds the occurrences tried. -/
def declParam (param : List Char) : Nat → List Char → Option (List Char)
  | 0, _ => none
  | fuel + 1, s =>
    match (List.range s.length).find? (fun i => param.isPrefixOf (s.drop i)) with
    | none => none
    | some k =>
      match s.drop (k + param.length) with
      | [] => none
      | c :: r =>
        if c = '\'' ∨ c = '"' then
          if c ∈ r then some (r.takeWhile (· ≠ c)) else none
        else declParam param fuel r

/-- The version named in a declaration body, `""` when none is. -/
def declaredVersion (body : List Char) : String :=
  String.ofList ((declParam "version=".toList (body.length + 1) body).getD [])

/-- A processing instruction after its `<?`. -/
def readInstruction (s : List Char) : Except Fault (Token × List Char) := do
  let (n, rest) ← readName s
  match n with
  | none => fault "expected target name after <?" rest
  | some target =>
    let (body, rest') ← instructionBody (skipSpace rest)
    let v := declaredVersion body
    if target = "xml" ∧ v ≠ "" ∧ v ≠ "1.0" then .error (.version v)
    else pure (.instruction target (String.ofList body), rest')

/-- Where a directive's reader stands: in plain text, after a `<` that may open a comment
(with how much of `!--` has been seen), or in such a comment (with the last two
characters). -/
inductive DirectiveMode where
  | plain
  | afterLt (seen : Nat)
  | inComment (b0 b1 : Char)
  deriving Repr

/-- The state of a directive's reader: open quote, nesting depth of `<…>`, the text so far
(reversed) and the mode. -/
structure DirectiveState where
  quote : Option Char := none
  depth : Nat := 0
  acc : List Char := []
  mode : DirectiveMode := .plain

/-- Take one character of a directive's text in plain mode. -/
def DirectiveState.take (d : DirectiveState) (b : Char) : DirectiveState :=
  let d := { d with acc := b :: d.acc }
  if d.quote = some b then { d with quote := none }
  else if d.quote.isSome then d
  else if b = '\'' ∨ b = '"' then { d with quote := some b }
  else if b = '>' then { d with depth := d.depth - 1 }
  else if b = '<' then { d with mode := .afterLt 0 }
  else d

/-- The three characters after `<` that open a comment inside a directive. -/
def commentOpen : List Char := ['!', '-', '-']

/-- The rest of a directive, up to the `>` that closes it outside quotes and nesting. -/
def directiveRun (d : DirectiveState) : List Char → Except Fault ((List Char) × List Char)
  | [] => endOfInput
  | b :: rest =>
    match d.mode with
    | .plain =>
      if d.quote.isNone ∧ b = '>' ∧ d.depth = 0 then .ok (d.acc.reverse, rest)
      else directiveRun (d.take b) rest
    | .afterLt seen =>
      if commentOpen[seen]? = some b then
        if seen = 2 then directiveRun { d with acc := d.acc.drop 1, mode := .inComment '\x00' '\x00' } rest
        else directiveRun { d with mode := .afterLt (seen + 1) } rest
      else
        let d := { d with acc := (commentOpen.take seen).reverse ++ d.acc, depth := d.depth + 1,
                          mode := .plain }
        directiveRun (d.take b) rest
    | .inComment b0 b1 =>
      if b0 = '-' ∧ b1 = '-' ∧ b = '>' then directiveRun { d with acc := ' ' :: d.acc, mode := .plain } rest
      else directiveRun { d with mode := .inComment b1 b } rest

/-- Markup after `<!`: a comment, a CDATA section or a directive. -/
def readBang (s : List Char) : Except Fault (Token × List Char) :=
  match s with
  | [] => endOfInput
  | '-' :: rest =>
    match rest with
    | [] => endOfInput
    | '-' :: rest' => do
      let (body, r) ← commentBody rest'
      pure (.comment (String.ofList body), r)
    | _ :: rest' => fault "invalid sequence <!- not part of <!--" rest'
  | '[' :: rest => openSection "CDATA[".toList rest
  | b :: rest => do
    let (body, r) ← directiveRun { acc := [b] } rest
    pure (.directive (String.ofList body), r)
where
  /-- The rest of `<![CDATA[`, then the section's text. -/
  openSection : List Char → List Char → Except Fault (Token × List Char)
    | [], s => do
      let (data, r) ← readText .section s
      pure (.text data, r)
    | _ :: _, [] => endOfInput
    | c :: cs, b :: rest => if b = c then openSection cs rest else fault "invalid <![ sequence" rest

/-- The next token, or `none` at the end of the input. -/
def nextToken (s : List Char) : Except Fault ((Option Token) × List Char) :=
  match s with
  | [] => .ok (none, [])
  | '<' :: rest =>
    let step : Except Fault (Token × List Char) :=
      match rest with
      | [] => endOfInput
      | '/' :: r => readStop r
      | '?' :: r => readInstruction r
      | '!' :: r => readBang r
      | _ => readStart rest
    step.map fun (t, r) => (some t, r)
  | _ => (readText .markup s).map fun (d, r) => (some (.text d), r)

example : (nextToken "<a b='1'/>".toList).toOption =
    some (some (.start "" "a" [⟨"", "b", "1"⟩] true), []) := by
  cbv

end EInvoice.Xml
