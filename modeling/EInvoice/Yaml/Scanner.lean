import EInvoice.Text.Utf8

/-!
# Scanning YAML into tokens

The first stage of reading YAML: characters become tokens, by the rules of the YAML 1.1
scanner that configuration readers use. Block structure is made explicit: the scanner keeps a stack of
indentation columns and emits `blockMappingStart`, `blockSequenceStart` and `blockEnd` as
lines indent and dedent.

A mapping key is usually found only after the fact, when a `:` follows it. The scanner
therefore remembers, for each flow level, where a *simple key* could have started (the token
count at that point); when a `:` arrives while the key is still possible, a `key` token (and,
in block context, a `blockMappingStart`) is inserted back at that position. A simple key
spans one line and at most 1024 characters; a key that had to be one (at the indentation
column in block context) and is not, is an error.

The scanner runs on demand: the parser asks for the next token, and tokens are fetched until
at least three are waiting and none of them could still become a key. Errors therefore show up
in the same order as the parser meets them.

Faults carry the marks (0-based line and column) of their context and of the problem.
-/

namespace EInvoice.Yaml

/-- A position in the text: character index, line and column, from 0. -/
structure Mark where
  index : Nat
  line : Nat
  column : Nat
  deriving Repr, Inhabited, DecidableEq

/-- How a scalar was written. -/
inductive ScalarStyle where
  | plain
  | singleQuoted
  | doubleQuoted
  | literal
  | folded
  deriving Repr, Inhabited, DecidableEq

/-- The kinds of tokens, with what they carry. -/
inductive TokenKind where
  | streamStart
  | streamEnd
  | versionDirective (major minor : Nat)
  | tagDirective (handle pfx : String)
  | documentStart
  | documentEnd
  | blockSequenceStart
  | blockMappingStart
  | blockEnd
  | flowSequenceStart
  | flowSequenceEnd
  | flowMappingStart
  | flowMappingEnd
  | blockEntry
  | flowEntry
  | key
  | value
  | alias (name : String)
  | anchor (name : String)
  | tag (handle suffix : String)
  | scalar (text : String) (style : ScalarStyle)
  deriving Repr, Inhabited, DecidableEq

/-- A token with its start and end marks. -/
structure Token where
  kind : TokenKind
  start : Mark
  stop : Mark
  deriving Repr, Inhabited

/-- The stage that found a fault. -/
inductive Stage where
  | reader
  | scanner
  | parser
  | composer
  deriving Repr, DecidableEq

/-- A fault of reading YAML. -/
structure Fault where
  stage : Stage
  context : String
  contextMark : Mark
  problem : String
  problemMark : Mark
  deriving Repr

/-- The sentence of a fault. Scanner and parser faults name a line: the context's if it is
past the first, else the problem's; a scanner counts lines from 1 there, a parser from 0. -/
def Fault.message (f : Fault) : String :=
  match f.stage with
  | .reader | .composer => "yaml: " ++ f.problem
  | _ =>
    let bump := if f.stage = .scanner then 1 else 0
    let line := if f.contextMark.line ≠ 0 then f.contextMark.line + bump
      else if f.problemMark.line ≠ 0 then f.problemMark.line + bump else 0
    "yaml: " ++ (if line ≠ 0 then "line " ++ toString line ++ ": " else "") ++ f.problem

/-- A place where a simple key may have started. -/
structure SimpleKey where
  possible : Bool
  required : Bool
  tokenNumber : Nat
  mark : Mark
  deriving Repr, Inhabited

/-- The scanner's state. -/
structure Scanner where
  input : Array Char
  mark : Mark
  queue : Array Token
  parsed : Nat
  started : Bool
  flowLevel : Nat
  indent : Int
  indents : List Int
  keyAllowed : Bool
  keys : Array SimpleKey
  deriving Repr

/-- A scanner at the start of a text. -/
def Scanner.init (text : String) : Scanner :=
  ⟨text.toList.toArray, ⟨0, 0, 0⟩, #[], 0, false, 0, -1, [], false, #[]⟩

/-- The character `k` places ahead; `'\x00'` past the end. -/
def Scanner.peek (s : Scanner) (k : Nat) : Char := s.input.getD (s.mark.index + k) '\x00'

abbrev ScanM := StateT Scanner (Except Fault)

def isBlank (c : Char) : Bool := c = ' ' || c = '\t'
def isBreak (c : Char) : Bool := c = '\r' || c = '\n' || c = '\x85' || c = '\u2028' || c = '\u2029'
def isZ (c : Char) : Bool := c = '\x00'
def isBreakZ (c : Char) : Bool := isBreak c || isZ c
def isBlankZ (c : Char) : Bool := isBlank c || isBreakZ c
def isAlpha (c : Char) : Bool := c.isAlphanum || c = '_' || c = '-'
def isHexDigit (c : Char) : Bool := c.isDigit || ('a' ≤ c && c ≤ 'f') || ('A' ≤ c && c ≤ 'F')

/-- The value of a hexadecimal digit. -/
def hexValue (c : Char) : Nat :=
  if c.isDigit then c.toNat - '0'.toNat
  else if 'a' ≤ c && c ≤ 'f' then c.toNat - 'a'.toNat + 10
  else c.toNat - 'A'.toNat + 10

/-- A character allowed in a text: tab, line breaks, printable ASCII and the printable
ranges above. -/
def allowedChar (c : Char) : Bool :=
  let n := c.toNat
  n = 0x9 || n = 0xA || n = 0xD || (0x20 ≤ n && n ≤ 0x7E) || n = 0x85 ||
    (0xA0 ≤ n && n ≤ 0xD7FF) || (0xE000 ≤ n && n ≤ 0xFFFD) || (0x10000 ≤ n && n ≤ 0x10FFFF)

def ch (k : Nat) : ScanM Char := do return (← get).peek k

def mark : ScanM Mark := do return (← get).mark

/-- A scanner fault with a context. -/
def scanFault {α : Type} (context : String) (contextMark : Mark) (problem : String) : ScanM α := do
  throw ⟨.scanner, context, contextMark, problem, (← get).mark⟩

/-- Move past one character. -/
def skip : ScanM Unit :=
  modify fun s => { s with mark := ⟨s.mark.index + 1, s.mark.line, s.mark.column + 1⟩ }

/-- Move past a line break (a CR LF pair counts as one). -/
def skipLine : ScanM Unit :=
  modify fun s =>
    if s.peek 0 = '\r' && s.peek 1 = '\n' then { s with mark := ⟨s.mark.index + 2, s.mark.line + 1, 0⟩ }
    else if isBreak (s.peek 0) then { s with mark := ⟨s.mark.index + 1, s.mark.line + 1, 0⟩ }
    else s

/-- Copy one character. -/
def readChar (acc : String) : ScanM String := do
  let c ← ch 0
  skip
  return acc.push c

/-- Copy a line break, written as a line feed (line and paragraph separators as they are). -/
def readLine (acc : String) : ScanM String := do
  let s ← get
  let c0 := s.peek 0
  if c0 = '\r' && s.peek 1 = '\n' then
    set { s with mark := ⟨s.mark.index + 2, s.mark.line + 1, 0⟩ }
    return acc.push '\n'
  else if c0 = '\r' || c0 = '\n' || c0 = '\x85' then
    set { s with mark := ⟨s.mark.index + 1, s.mark.line + 1, 0⟩ }
    return acc.push '\n'
  else if c0 = '\u2028' || c0 = '\u2029' then
    set { s with mark := ⟨s.mark.index + 1, s.mark.line + 1, 0⟩ }
    return acc.push c0
  else return acc

/-- Skip while a condition holds, at most `fuel` characters. -/
def skipWhile (p : Scanner → Bool) : Nat → ScanM Unit
  | 0 => pure ()
  | fuel + 1 => do
    if p (← get) then
      skip
      skipWhile p fuel

/-- Copy while a condition holds. -/
def readWhile (p : Scanner → Bool) : Nat → String → ScanM String
  | 0, acc => pure acc
  | fuel + 1, acc => do
    if p (← get) then readWhile p fuel (← readChar acc) else pure acc

/-- A bound on the work of one loop over the text. -/
def Scanner.fuel (s : Scanner) : Nat := s.input.size + 2

/-- Queue a token at the end. -/
def append (t : Token) : ScanM Unit := modify fun s => { s with queue := s.queue.push t }

/-- Queue a token `pos` places after the head. -/
def insertAt (pos : Nat) (t : Token) : ScanM Unit :=
  modify fun s => { s with queue := (s.queue.extract 0 pos).push t ++ s.queue.extract pos s.queue.size }

/-- Whether the simple key at a level of the stack is still possible; a stale one is dropped,
or is an error when it was required. -/
def checkKey (i : Nat) : ScanM Bool := do
  let s ← get
  let some k := s.keys[i]? | return false
  if !k.possible then return false
  if k.mark.line < s.mark.line || k.mark.index + 1024 < s.mark.index then
    if k.required then scanFault "while scanning a simple key" k.mark "could not find expected ':'"
    set { s with keys := s.keys.set! i { k with possible := false } }
    return false
  return true

/-- Drop the possible simple key of the current flow level; an error when it was required. -/
def removeSimpleKey : ScanM Unit := do
  let s ← get
  let i := s.keys.size - 1
  let some k := s.keys[i]? | return ()
  if k.possible then
    if k.required then scanFault "while scanning a simple key" k.mark "could not find expected ':'"
    set { s with keys := s.keys.set! i { k with possible := false } }

/-- Remember that a simple key may start here. -/
def saveSimpleKey : ScanM Unit := do
  let s ← get
  if s.keyAllowed then
    let k : SimpleKey := ⟨true, s.flowLevel = 0 && s.indent = s.mark.column,
      s.parsed + s.queue.size, s.mark⟩
    removeSimpleKey
    modify fun s => { s with keys := s.keys.set! (s.keys.size - 1) k }

/-- Open a block collection at `column` if it is deeper than the current indentation; its
start token goes at token number `number`, or at the end. -/
def rollIndent (column : Nat) (number : Option Nat) (kind : TokenKind) (m : Mark) : ScanM Unit := do
  let s ← get
  if s.flowLevel = 0 && s.indent < column then
    set { s with indents := s.indent :: s.indents, indent := column }
    match number with
    | some n => insertAt (n - s.parsed) ⟨kind, m, m⟩
    | none => append ⟨kind, m, m⟩

/-- Close the block collections deeper than `column`. -/
def unrollIndent (column : Int) (scanMark : Mark) : Nat → ScanM Unit
  | 0 => pure ()
  | fuel + 1 => do
    let s ← get
    if s.flowLevel = 0 && s.indent > column then
      let m := { scanMark with index := scanMark.index - 1 }
      append ⟨.blockEnd, m, m⟩
      modify fun s => match s.indents with
        | i :: rest => { s with indent := i, indents := rest }
        | [] => { s with indent := -1 }
      unrollIndent column scanMark fuel

/-- Skip blanks, comments and line breaks up to the next token. Tabs are skipped only in flow
context or where no simple key may start. -/
def scanToNextToken : Nat → ScanM Unit
  | 0 => pure ()
  | fuel + 1 => do
    let s ← get
    if s.mark.column = 0 && s.peek 0 = '\uFEFF' then skip
    skipWhile (fun s => s.peek 0 = ' ' || ((s.flowLevel > 0 || !s.keyAllowed) && s.peek 0 = '\t')) s.fuel
    if (← ch 0) = '#' then skipWhile (fun s => !isBreakZ (s.peek 0)) s.fuel
    if isBreak (← ch 0) then
      skipLine
      modify fun s => if s.flowLevel = 0 then { s with keyAllowed := true } else s
      scanToNextToken fuel

def fetchStreamStart : ScanM Unit := do
  modify fun s => { s with indent := -1, keys := #[default], keyAllowed := true, started := true }
  let m ← mark
  append ⟨.streamStart, m, m⟩

def fetchStreamEnd : ScanM Unit := do
  modify fun s => if s.mark.column ≠ 0 then { s with mark := ⟨s.mark.index, s.mark.line + 1, 0⟩ } else s
  let s ← get
  unrollIndent (-1) s.mark (s.indents.length + 1)
  removeSimpleKey
  modify fun s => { s with keyAllowed := false }
  let m ← mark
  append ⟨.streamEnd, m, m⟩

/-- Emit a one-character indicator token. -/
def indicator (kind : TokenKind) : ScanM Unit := do
  let start ← mark
  skip
  append ⟨kind, start, ← mark⟩

def fetchDocumentIndicator (kind : TokenKind) : ScanM Unit := do
  let s ← get
  unrollIndent (-1) s.mark (s.indents.length + 1)
  removeSimpleKey
  modify fun s => { s with keyAllowed := false }
  let start ← mark
  skip; skip; skip
  append ⟨kind, start, ← mark⟩

def fetchFlowCollectionStart (kind : TokenKind) : ScanM Unit := do
  saveSimpleKey
  modify fun s => { s with keys := s.keys.push ⟨false, false, 0, s.mark⟩ }
  modify fun s => { s with flowLevel := s.flowLevel + 1, keyAllowed := true }
  indicator kind

def fetchFlowCollectionEnd (kind : TokenKind) : ScanM Unit := do
  removeSimpleKey
  modify fun s =>
    let s := if s.flowLevel > 0 then { s with flowLevel := s.flowLevel - 1, keys := s.keys.pop } else s
    { s with keyAllowed := false }
  indicator kind

def fetchFlowEntry : ScanM Unit := do
  removeSimpleKey
  modify fun s => { s with keyAllowed := true }
  indicator .flowEntry

def fetchBlockEntry : ScanM Unit := do
  let s ← get
  if s.flowLevel = 0 then
    if !s.keyAllowed then scanFault "" s.mark "block sequence entries are not allowed in this context"
    rollIndent s.mark.column none .blockSequenceStart s.mark
  removeSimpleKey
  modify fun s => { s with keyAllowed := true }
  indicator .blockEntry

def fetchKey : ScanM Unit := do
  let s ← get
  if s.flowLevel = 0 then
    if !s.keyAllowed then scanFault "" s.mark "mapping keys are not allowed in this context"
    rollIndent s.mark.column none .blockMappingStart s.mark
  removeSimpleKey
  modify fun s => { s with keyAllowed := s.flowLevel = 0 }
  indicator .key

def fetchValue : ScanM Unit := do
  let i := (← get).keys.size - 1
  if ← checkKey i then
    let s ← get
    let k := s.keys[i]?.getD default
    insertAt (k.tokenNumber - s.parsed) ⟨.key, k.mark, k.mark⟩
    rollIndent k.mark.column (some k.tokenNumber) .blockMappingStart k.mark
    modify fun s => { s with keys := s.keys.set! i { k with possible := false }, keyAllowed := false }
  else
    let s ← get
    if s.flowLevel = 0 then
      if !s.keyAllowed then scanFault "" s.mark "mapping values are not allowed in this context"
      rollIndent s.mark.column none .blockMappingStart s.mark
    modify fun s => { s with keyAllowed := s.flowLevel = 0 }
  indicator .value

/-- An anchor (`&name`) or alias (`*name`). -/
def scanAnchor (isAlias : Bool) : ScanM Token := do
  let start ← mark
  skip
  let name ← readWhile (fun s => isAlpha (s.peek 0)) (← get).fuel ""
  let stop ← mark
  let c ← ch 0
  if name.isEmpty || !(isBlankZ c || c = '?' || c = ':' || c = ',' || c = ']' || c = '}' ||
      c = '%' || c = '@' || c = '`') then
    scanFault (if isAlias then "while scanning an alias" else "while scanning an anchor") start
      "did not find expected alphabetic or numeric character"
  return ⟨if isAlias then .alias name else .anchor name, start, stop⟩

/-- A character that may appear in a tag or a tag prefix; `%` starts an escaped octet. -/
def uriChar (c : Char) : Bool :=
  isAlpha c || ";/?:@&=+$,.%!~*'()[]".toList.contains c

/-- A fault found in a tag, or in the tag of a `%TAG` directive. -/
def tagFault {α : Type} (directive : Bool) (start : Mark) (problem : String) : ScanM α :=
  scanFault (if directive then "while parsing a %TAG directive" else "while parsing a tag") start problem

/-- The length of the UTF-8 sequence a leading octet starts; 0 for an octet that cannot lead. -/
def leadWidth (b : Nat) : Nat :=
  if b < 0x80 then 1
  else if b / 32 = 6 then 2
  else if b / 16 = 14 then 3
  else if b / 8 = 30 then 4
  else 0

/-- The octets of one character written as escaped octets (`%` and two hexadecimal digits):
the leading octet tells how many follow, and each that follows must be a trailing octet.
`left` counts the octets still expected, with the one at hand. -/
def uriEscapes (directive : Bool) (start : Mark) : Nat → Nat → Text.Bytes → ScanM Text.Bytes
  | 0, _, acc => pure acc
  | fuel + 1, left, acc => do
    if !((← ch 0) = '%' && isHexDigit (← ch 1) && isHexDigit (← ch 2)) then
      tagFault directive start "did not find URI escaped octet"
    let octet := hexValue (← ch 1) * 16 + hexValue (← ch 2)
    let left ← if acc.isEmpty then do
        let w := leadWidth octet
        if w = 0 then tagFault directive start "found an incorrect leading UTF-8 octet"
        pure w
      else do
        if octet / 64 ≠ 2 then tagFault directive start "found an incorrect trailing UTF-8 octet"
        pure left
    skip; skip; skip
    let acc := acc ++ [octet.toUInt8]
    if left ≤ 1 then pure acc else uriEscapes directive start fuel (left - 1) acc

/-- Copy the characters of a tag, escaped octets decoded (octets that do not make a
character become replacement characters). -/
def uriRun (directive : Bool) (start : Mark) : Nat → String → ScanM String
  | 0, acc => pure acc
  | fuel + 1, acc => do
    let c ← ch 0
    if !uriChar c then pure acc
    else if c = '%' then
      let octets ← uriEscapes directive start (← get).fuel 0 []
      uriRun directive start fuel (acc ++ Text.decodeLossy octets)
    else uriRun directive start fuel (← readChar acc)

/-- A tag or tag prefix, following `head` (a handle that turned out to start the tag, whose
`!` is dropped). Without a head, the tag may not be empty. -/
def scanUri (directive : Bool) (head : String) (start : Mark) : ScanM String := do
  let text ← uriRun directive start (← get).fuel (head.drop 1).toString
  if text.isEmpty && head.isEmpty then
    scanFault "while parsing a tag" start "did not find expected tag URI"
  pure text

/-- A tag handle: `!`, letters and digits, and a closing `!` when there is one. In a `%TAG`
directive the closing `!` is required, unless the handle is `!` alone. -/
def scanTagHandle (directive : Bool) (start : Mark) : ScanM String := do
  if (← ch 0) ≠ '!' then tagFault directive start "did not find expected '!'"
  skip
  let body ← readWhile (fun s => isAlpha (s.peek 0)) (← get).fuel "!"
  if (← ch 0) = '!' then
    skip
    pure (body.push '!')
  else
    if directive && body ≠ "!" then tagFault directive start "did not find expected '!'"
    pure body

/-- A tag: `!<uri>`, `!handle!suffix`, `!suffix` or `!`. -/
def scanTag : ScanM Token := do
  let start ← mark
  let (handle, suffix) ← if (← ch 1) = '<' then do
      skip; skip
      let suffix ← scanUri false "" start
      if (← ch 0) ≠ '>' then scanFault "while scanning a tag" start "did not find the expected '>'"
      skip
      pure ("", suffix)
    else do
      let handle ← scanTagHandle false start
      if handle.length > 1 && handle.endsWith "!" then
        pure (handle, ← scanUri false "" start)
      else
        let suffix ← scanUri false handle start
        if suffix.isEmpty then pure ("", "!") else pure ("!", suffix)
  let c ← ch 0
  if !isBlankZ c && !((← get).flowLevel > 0 && c = ',') then
    scanFault "while scanning a tag" start "did not find expected whitespace or line break"
  return ⟨.tag handle suffix, start, ← mark⟩

/-- The line breaks and indentation before a block scalar's next line; finds the indentation
when it is not yet known. -/
def blockScalarBreaks (start : Mark) (indent : Nat) (breaks : String) (stop : Mark) :
    Nat → Nat → ScanM (Nat × String × Mark)
  | 0, _ => pure (indent, breaks, stop)
  | fuel + 1, maxIndent => do
    skipWhile (fun s => (indent = 0 || s.mark.column < indent) && s.peek 0 = ' ') (← get).fuel
    let s ← get
    let maxIndent := max maxIndent s.mark.column
    if (indent = 0 || s.mark.column < indent) && s.peek 0 = '\t' then
      scanFault "while scanning a block scalar" start "found a tab character where an indentation space is expected"
    if !isBreak (s.peek 0) then
      let indent := if indent = 0 then
          let base := max maxIndent (s.indent + 1).toNat
          max base 1
        else indent
      pure (indent, breaks, stop)
    else
      let breaks ← readLine breaks
      blockScalarBreaks start indent breaks (← mark) fuel maxIndent

/-- The lines of a block scalar's content. -/
def blockScalarLines (literal : Bool) (start : Mark) (indent : Nat) :
    Nat → String → String → String → Bool → Mark → ScanM (String × String × String × Mark)
  | 0, text, leading, trailing, _, stop => pure (text, leading, trailing, stop)
  | fuel + 1, text, leading, trailing, leadingBlank, stop => do
    let s ← get
    if s.mark.column ≠ indent || isZ (s.peek 0) then return (text, leading, trailing, stop)
    let trailingBlank := isBlank (s.peek 0)
    let text := if !literal && !leadingBlank && !trailingBlank && leading.front = '\n' && !leading.isEmpty then
        (if trailing.isEmpty then text.push ' ' else text)
      else text ++ leading
    let text := text ++ trailing
    let leadingBlank := isBlank (s.peek 0)
    let text ← readWhile (fun s => !isBreakZ (s.peek 0)) s.fuel text
    let leading ← readLine ""
    let (_, trailing, stop) ← blockScalarBreaks start indent "" stop (← get).fuel 0
    blockScalarLines literal start indent fuel text leading trailing leadingBlank stop

/-- A literal (`|`) or folded (`>`) block scalar, with its chomping and indentation
indicators. -/
def scanBlockScalar (literal : Bool) : ScanM Token := do
  let start ← mark
  skip
  let c ← ch 0
  let (chomping, increment) ← if c = '+' || c = '-' then do
      skip
      let d ← ch 0
      if d.isDigit then do
        if d = '0' then scanFault "while scanning a block scalar" start "found an indentation indicator equal to 0"
        skip
        pure ((if c = '+' then 1 else -1 : Int), d.toNat - '0'.toNat)
      else pure ((if c = '+' then 1 else -1 : Int), 0)
    else if c.isDigit then do
      if c = '0' then scanFault "while scanning a block scalar" start "found an indentation indicator equal to 0"
      skip
      let e ← ch 0
      if e = '+' || e = '-' then do
        skip
        pure ((if e = '+' then 1 else -1 : Int), c.toNat - '0'.toNat)
      else pure (0, c.toNat - '0'.toNat)
    else pure (0, 0)
  skipWhile (fun s => isBlank (s.peek 0)) (← get).fuel
  if (← ch 0) = '#' then skipWhile (fun s => !isBreakZ (s.peek 0)) (← get).fuel
  if !isBreakZ (← ch 0) then
    scanFault "while scanning a block scalar" start "did not find expected comment or line break"
  if isBreak (← ch 0) then skipLine
  let stop ← mark
  let s ← get
  let indent := if increment > 0 then
      (if s.indent ≥ 0 then s.indent.toNat + increment else increment) else 0
  let (indent, trailing, stop) ← blockScalarBreaks start indent "" stop s.fuel 0
  let (text, leading, trailing, stop) ←
    blockScalarLines literal start indent (← get).fuel "" "" trailing false stop
  let text := if chomping ≠ -1 then text ++ leading else text
  let text := if chomping = 1 then text ++ trailing else text
  return ⟨.scalar text (if literal then .literal else .folded), start, stop⟩

/-- Whether a document marker (`---` or `...` then a blank) starts here, at column 0. -/
def Scanner.atDocumentMarker (s : Scanner) : Bool :=
  s.mark.column = 0 &&
    ((s.peek 0 = '-' && s.peek 1 = '-' && s.peek 2 = '-') ||
      (s.peek 0 = '.' && s.peek 1 = '.' && s.peek 2 = '.')) && isBlankZ (s.peek 3)

/-- The character of a Unicode escape, when it is one. -/
def escapeChar (v : Nat) : Option Char :=
  if (0xD800 ≤ v && v ≤ 0xDFFF) || v > 0x10FFFF then none else some (Char.ofNat v)

/-- The non-blank characters of a quoted scalar up to a blank, a line break or its end;
whether an escaped line break ended them. -/
def quotedRun (single : Bool) (start : Mark) : Nat → String → ScanM (String × Bool)
  | 0, acc => pure (acc, false)
  | fuel + 1, acc => do
    let s ← get
    let c := s.peek 0
    if isBlankZ c then return (acc, false)
    if single && c = '\'' && s.peek 1 = '\'' then
      skip; skip
      quotedRun single start fuel (acc.push '\'')
    else if single && c = '\'' then return (acc, false)
    else if !single && c = '"' then return (acc, false)
    else if !single && c = '\\' && isBreak (s.peek 1) then
      skip
      skipLine
      return (acc, true)
    else if !single && c = '\\' then
      let e := s.peek 1
      let simple : Option Char := match e with
        | '0' => some '\x00' | 'a' => some '\x07' | 'b' => some '\x08' | 't' => some '\t'
        | '\t' => some '\t' | 'n' => some '\n' | 'v' => some '\x0b' | 'f' => some '\x0c'
        | 'r' => some '\r' | 'e' => some '\x1b' | ' ' => some ' ' | '"' => some '"'
        | '\'' => some '\'' | '\\' => some '\\' | 'N' => some '\x85' | '_' => some '\xa0'
        | 'L' => some '\u2028' | 'P' => some '\u2029' | _ => none
      let width := match e with | 'x' => 2 | 'u' => 4 | 'U' => 8 | _ => 0
      match simple with
      | some r =>
        skip; skip
        quotedRun single start fuel (acc.push r)
      | none =>
        if width = 0 then scanFault "while parsing a quoted scalar" start "found unknown escape character"
        skip; skip
        let s ← get
        let digits := (List.range width).map fun k => s.peek k
        if !digits.all isHexDigit then
          scanFault "while parsing a quoted scalar" start "did not find expected hexdecimal number"
        let v := digits.foldl (fun acc d => acc * 16 + hexValue d) 0
        let some r := escapeChar v |
          scanFault "while parsing a quoted scalar" start "found invalid Unicode character escape code"
        for _ in List.range width do skip
        quotedRun single start fuel (acc.push r)
    else quotedRun single start fuel (← readChar acc)

/-- Blanks and line breaks inside a quoted or plain scalar: the blanks kept before the first
break, the first break, the later breaks, and whether a break was seen. -/
def foldBlanks (tabCheck : Option (Mark × Nat)) : Nat → String → String → String → Bool →
    ScanM (String × String × String × Bool)
  | 0, ws, lead, trail, lb => pure (ws, lead, trail, lb)
  | fuel + 1, ws, lead, trail, lb => do
    let s ← get
    let c := s.peek 0
    if isBlank c then
      match tabCheck with
      | some (start, indent) =>
        if lb && s.mark.column < indent && c = '\t' then
          scanFault "while scanning a plain scalar" start "found a tab character that violates indentation"
      | none => pure ()
      if !lb then foldBlanks tabCheck fuel (← readChar ws) lead trail lb
      else
        skip
        foldBlanks tabCheck fuel ws lead trail lb
    else if isBreak c then
      if !lb then foldBlanks tabCheck fuel "" (← readLine "") trail true
      else foldBlanks tabCheck fuel ws lead (← readLine trail) lb
    else pure (ws, lead, trail, lb)

/-- Join folded blanks onto a scalar's text: a single line break becomes a space. -/
def joinFolded (text ws lead trail : String) (lb : Bool) : String :=
  if lb then
    if lead.front = '\n' && !lead.isEmpty then (if trail.isEmpty then text.push ' ' else text ++ trail)
    else text ++ lead ++ trail
  else text ++ ws

/-- The body of a quoted scalar after its opening quote. -/
def quotedBody (single : Bool) (start : Mark) : Nat → String → ScanM String
  | 0, text => pure text
  | fuel + 1, text => do
    let s ← get
    if s.atDocumentMarker then
      scanFault "while scanning a quoted scalar" start "found unexpected document indicator"
    if isZ (s.peek 0) then scanFault "while scanning a quoted scalar" start "found unexpected end of stream"
    let (text, escapedBreak) ← quotedRun single start s.fuel text
    let c ← ch 0
    if (single && c = '\'') || (!single && c = '"') then return text
    let (ws, lead, trail, lb) ← foldBlanks none (← get).fuel "" "" "" escapedBreak
    quotedBody single start fuel (joinFolded text ws lead trail lb)

/-- A single- or double-quoted scalar. -/
def scanFlowScalar (single : Bool) : ScanM Token := do
  let start ← mark
  skip
  let text ← quotedBody single start (← get).fuel ""
  skip
  return ⟨.scalar text (if single then .singleQuoted else .doubleQuoted), start, ← mark⟩

/-- Whether a plain scalar stops at this character. -/
def Scanner.plainStop (s : Scanner) : Bool :=
  let c := s.peek 0
  (c = ':' && isBlankZ (s.peek 1)) ||
    (s.flowLevel > 0 && (c = ',' || c = '?' || c = '[' || c = ']' || c = '{' || c = '}'))

/-- The non-blank run of a plain scalar, joined after pending blanks. -/
def plainRun : Nat → String → String → String → String → Bool → Mark →
    ScanM (String × String × String × String × Bool × Mark)
  | 0, text, ws, lead, trail, lb, stop => pure (text, ws, lead, trail, lb, stop)
  | fuel + 1, text, ws, lead, trail, lb, stop => do
    let s ← get
    if isBlankZ (s.peek 0) || s.plainStop then return (text, ws, lead, trail, lb, stop)
    let text := if lb || !ws.isEmpty then joinFolded text ws lead trail lb else text
    let text ← readChar text
    plainRun fuel text "" "" "" false (← mark)

/-- The lines of a plain scalar. -/
def plainBody (start : Mark) (indent : Int) : Nat → String → String → String → String → Bool → Mark →
    ScanM (String × Bool × Mark)
  | 0, text, _, _, _, lb, stop => pure (text, lb, stop)
  | fuel + 1, text, ws, lead, trail, lb, stop => do
    let s ← get
    if s.atDocumentMarker || s.peek 0 = '#' then return (text, lb, stop)
    let (text, ws, lead, trail, lb, stop) ← plainRun s.fuel text ws lead trail lb stop
    let c ← ch 0
    if !(isBlank c || isBreak c) then return (text, lb, stop)
    let (ws, lead, trail, lb) ← foldBlanks (some (start, indent.toNat)) (← get).fuel ws lead trail lb
    let s ← get
    if s.flowLevel = 0 && (s.mark.column : Int) < indent then return (text, lb, stop)
    plainBody start indent fuel text ws lead trail lb stop

/-- A plain scalar; after one that ran over a line break, a simple key may follow. -/
def scanPlainScalar : ScanM Token := do
  let s ← get
  let start := s.mark
  let (text, lb, stop) ← plainBody start (s.indent + 1) s.fuel "" "" "" "" false start
  if lb then modify fun s => { s with keyAllowed := true }
  return ⟨.scalar text .plain, start, stop⟩

/-- A version number of a `%YAML` directive: one or two digits. -/
def versionNumber (start : Mark) : Nat → Nat → Nat → ScanM Nat
  | 0, _, v => pure v
  | fuel + 1, length, v => do
    let c ← ch 0
    if c.isDigit then
      if length ≥ 2 then
        scanFault "while scanning a %YAML directive" start "found extremely long version number"
      skip
      versionNumber start fuel (length + 1) (v * 10 + (c.toNat - '0'.toNat))
    else if length = 0 then
      scanFault "while scanning a %YAML directive" start "did not find expected version number"
    else pure v

/-- A directive line: `%YAML major.minor` or `%TAG handle prefix`. -/
def scanDirective : ScanM Token := do
  let start ← mark
  skip
  let name ← readWhile (fun s => isAlpha (s.peek 0)) (← get).fuel ""
  if name.isEmpty then scanFault "while scanning a directive" start "could not find expected directive name"
  if !isBlankZ (← ch 0) then
    scanFault "while scanning a directive" start "found unexpected non-alphabetical character"
  let tok ← if name = "YAML" then do
      skipWhile (fun s => isBlank (s.peek 0)) (← get).fuel
      let major ← versionNumber start 3 0 0
      if (← ch 0) ≠ '.' then
        scanFault "while scanning a %YAML directive" start "did not find expected digit or '.' character"
      skip
      let minor ← versionNumber start 3 0 0
      pure (TokenKind.versionDirective major minor)
    else if name = "TAG" then do
      skipWhile (fun s => isBlank (s.peek 0)) (← get).fuel
      let handle ← scanTagHandle true start
      if !isBlank (← ch 0) then
        scanFault "while scanning a %TAG directive" start "did not find expected whitespace"
      skipWhile (fun s => isBlank (s.peek 0)) (← get).fuel
      let pfx ← scanUri true "" start
      if !isBlankZ (← ch 0) then
        scanFault "while scanning a %TAG directive" start "did not find expected whitespace or line break"
      pure (TokenKind.tagDirective handle pfx)
    else scanFault "while scanning a directive" start "found unknown directive name"
  skipWhile (fun s => isBlank (s.peek 0)) (← get).fuel
  if (← ch 0) = '#' then skipWhile (fun s => !isBreakZ (s.peek 0)) (← get).fuel
  if !isBreakZ (← ch 0) then
    scanFault "while scanning a directive" start "did not find expected comment or line break"
  let stop ← mark
  if isBreak (← ch 0) then skipLine
  return ⟨tok, start, stop⟩

/-- Scan the next token into the queue. -/
def fetchNextToken : ScanM Unit := do
  if !(← get).started then return ← fetchStreamStart
  let scanMark ← mark
  scanToNextToken (← get).fuel
  let s ← get
  unrollIndent s.mark.column scanMark (s.indents.length + 1)
  let s ← get
  let c := s.peek 0
  let next := s.peek 1
  if isZ c then fetchStreamEnd
  else if s.mark.column = 0 && c = '%' then do
    let s ← get
    unrollIndent (-1) s.mark (s.indents.length + 1)
    removeSimpleKey
    modify fun s => { s with keyAllowed := false }
    append (← scanDirective)
  else if s.mark.column = 0 && c = '-' && next = '-' && s.peek 2 = '-' && isBlankZ (s.peek 3) then
    fetchDocumentIndicator .documentStart
  else if s.mark.column = 0 && c = '.' && next = '.' && s.peek 2 = '.' && isBlankZ (s.peek 3) then
    fetchDocumentIndicator .documentEnd
  else if c = '[' then fetchFlowCollectionStart .flowSequenceStart
  else if c = '{' then fetchFlowCollectionStart .flowMappingStart
  else if c = ']' then fetchFlowCollectionEnd .flowSequenceEnd
  else if c = '}' then fetchFlowCollectionEnd .flowMappingEnd
  else if c = ',' then fetchFlowEntry
  else if c = '-' && isBlankZ next then fetchBlockEntry
  else if c = '?' && (s.flowLevel > 0 || isBlankZ next) then fetchKey
  else if c = ':' && (s.flowLevel > 0 || isBlankZ next) then fetchValue
  else if c = '*' || c = '&' then do
    saveSimpleKey
    modify fun s => { s with keyAllowed := false }
    append (← scanAnchor (c = '*'))
  else if c = '!' then do
    saveSimpleKey
    modify fun s => { s with keyAllowed := false }
    append (← scanTag)
  else if (c = '|' || c = '>') && s.flowLevel = 0 then do
    removeSimpleKey
    modify fun s => { s with keyAllowed := true }
    append (← scanBlockScalar (c = '|'))
  else if c = '\'' || c = '"' then do
    saveSimpleKey
    modify fun s => { s with keyAllowed := false }
    append (← scanFlowScalar (c = '\''))
  else if !(isBlankZ c || "-?:,[]\x7b\x7d#&*!|>'\"%@`".toList.contains c) || (c = '-' && !isBlank next) ||
      (s.flowLevel = 0 && (c = '?' || c = ':') && !isBlankZ next) then do
    saveSimpleKey
    modify fun s => { s with keyAllowed := false }
    append (← scanPlainScalar)
  else scanFault "while scanning for the next token" s.mark "found character that cannot start any token"

/-- Fetch tokens until at least three wait and the head could not still become a key. -/
def fetchMoreTokens : Nat → ScanM Unit
  | 0 => pure ()
  | fuel + 1 => do
    let s ← get
    if s.queue.size > 2 then
      match s.keys.findIdx? (fun k => k.possible && k.tokenNumber = s.parsed) with
      | none => return
      | some i => if !(← checkKey i) then return
    fetchNextToken
    fetchMoreTokens fuel

/-- The token at the head of the queue, fetching as needed. -/
def peekToken : ScanM Token := do
  let s ← get
  fetchMoreTokens (4 * s.input.size + 16)
  return (← get).queue[0]?.getD ⟨.streamEnd, (← get).mark, (← get).mark⟩

/-- Consume the head token. -/
def skipToken : ScanM Unit :=
  modify fun s => { s with queue := s.queue.extract 1 s.queue.size, parsed := s.parsed + 1 }

example : isBreakZ '\x00' = true := by decide

end EInvoice.Yaml
