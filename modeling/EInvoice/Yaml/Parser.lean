import EInvoice.Yaml.Scanner

/-!
# Parsing YAML tokens into events

The second stage of reading YAML: the token stream becomes a stream of events (document
start and end, collection start and end, scalars and aliases), by a state machine with a
stack of states to return to and a stack of marks where open collections began.

Block collections end at `blockEnd` tokens; a block sequence may also appear without
indentation as a mapping value (an *indentless* sequence), ending at the first token that
is not an entry. A missing key or value is an empty plain scalar. Tags are expanded with the
tag directives of the document, `!` and `!!` by default; an unknown handle is an error.

Parser faults name the construct being parsed (its mark is the context) and the token where
parsing stopped (the problem).
-/

namespace EInvoice.Yaml

/-- The kinds of events, with what they carry. -/
inductive EventKind where
  | streamStart
  | streamEnd
  | documentStart
  | documentEnd
  | alias (name : String)
  | scalar (anchor tag text : String) (style : ScalarStyle)
  | sequenceStart (anchor tag : String) (flow : Bool)
  | sequenceEnd
  | mappingStart (anchor tag : String) (flow : Bool)
  | mappingEnd
  deriving Repr, Inhabited, DecidableEq

/-- An event with its marks. -/
structure Event where
  kind : EventKind
  start : Mark
  stop : Mark
  deriving Repr, Inhabited

/-- Where the parser is. -/
inductive PState where
  | streamStart
  | implicitDocumentStart
  | documentStart
  | documentContent
  | documentEnd
  | blockNode
  | blockNodeOrIndentlessSequence
  | flowNode
  | blockSequenceFirstEntry
  | blockSequenceEntry
  | indentlessSequenceEntry
  | blockMappingFirstKey
  | blockMappingKey
  | blockMappingValue
  | flowSequenceFirstEntry
  | flowSequenceEntry
  | flowSequenceEntryMappingKey
  | flowSequenceEntryMappingValue
  | flowSequenceEntryMappingEnd
  | flowMappingFirstKey
  | flowMappingKey
  | flowMappingValue
  | flowMappingEmptyValue
  | finished
  deriving Repr, Inhabited, DecidableEq

/-- The parser's state. -/
structure Parser where
  scanner : Scanner
  state : PState
  states : List PState
  marks : List Mark
  tagDirectives : List (String × String)
  deriving Repr

/-- A parser at the start of a text. -/
def Parser.init (text : String) : Parser := ⟨Scanner.init text, .streamStart, [], [], []⟩

abbrev ParseM := StateT Parser (Except Fault)

/-- Run a scanner step. -/
def scan {α : Type} (m : ScanM α) : ParseM α := fun p => do
  let (a, s) ← m p.scanner
  pure (a, { p with scanner := s })

def peek : ParseM Token := scan peekToken

def skipTok : ParseM Unit := scan skipToken

def zeroMark : Mark := ⟨0, 0, 0⟩

/-- A parser fault. -/
def parseFault {α : Type} (context : String) (contextMark : Mark) (problem : String)
    (problemMark : Mark) : ParseM α :=
  throw ⟨.parser, context, contextMark, problem, problemMark⟩

/-- Return to the state on top of the stack. -/
def popState : ParseM Unit :=
  modify fun p => match p.states with
    | s :: rest => { p with state := s, states := rest }
    | [] => { p with state := .finished }

def pushState (s : PState) : ParseM Unit := modify fun p => { p with states := s :: p.states }

def setState (s : PState) : ParseM Unit := modify fun p => { p with state := s }

def pushMark (m : Mark) : ParseM Unit := modify fun p => { p with marks := m :: p.marks }

/-- Take the mark on top of the stack. -/
def popMark : ParseM Mark := do
  let p ← get
  match p.marks with
  | m :: rest => set { p with marks := rest }; pure m
  | [] => pure zeroMark

/-- An empty plain scalar at a mark. -/
def emptyScalar (m : Mark) : Event := ⟨.scalar "" "" "" .plain, m, m⟩

def defaultTagDirectives : List (String × String) := [("!", "!"), ("!!", "tag:yaml.org,2002:")]

/-- Read the directives before a document. -/
def processDirectives : Nat → Bool → ParseM Unit
  | 0, _ => pure ()
  | fuel + 1, seenVersion => do
    let t ← peek
    match t.kind with
    | .versionDirective major minor =>
      if seenVersion then parseFault "" zeroMark "found duplicate %YAML directive" t.start
      if major ≠ 1 || minor ≠ 1 then
        parseFault "" zeroMark "found incompatible YAML document" t.start
      skipTok
      processDirectives fuel true
    | .tagDirective handle pfx =>
      if ((← get).tagDirectives.any (·.1 = handle)) then
        parseFault "" zeroMark "found duplicate %TAG directive" t.start
      modify fun p => { p with tagDirectives := p.tagDirectives ++ [(handle, pfx)] }
      skipTok
      processDirectives fuel seenVersion
    | _ =>
      modify fun p => { p with tagDirectives := p.tagDirectives ++
        defaultTagDirectives.filter (fun d => !p.tagDirectives.any (·.1 = d.1)) }

def parseStreamStart : ParseM Event := do
  let t ← peek
  if t.kind ≠ .streamStart then parseFault "" zeroMark "did not find expected <stream-start>" t.start
  setState .implicitDocumentStart
  skipTok
  pure ⟨.streamStart, t.start, t.stop⟩

/-- Skip extra document end markers. -/
def skipDocumentEnds : Nat → ParseM Token
  | 0 => peek
  | fuel + 1 => do
    let t ← peek
    if t.kind = .documentEnd then
      skipTok
      skipDocumentEnds fuel
    else pure t

def isDirective : TokenKind → Bool
  | .versionDirective .. | .tagDirective .. => true
  | _ => false

def parseDocumentStart (implicit : Bool) : ParseM Event := do
  let fuel := (← get).scanner.fuel
  let t ← if implicit then peek else skipDocumentEnds fuel
  if implicit && !isDirective t.kind && t.kind ≠ .documentStart && t.kind ≠ .streamEnd then
    modify fun p => { p with tagDirectives := [] }
    processDirectives fuel false
    pushState .documentEnd
    setState .blockNode
    pure ⟨.documentStart, t.start, t.stop⟩
  else if t.kind ≠ .streamEnd then
    modify fun p => { p with tagDirectives := [] }
    processDirectives fuel false
    let t2 ← peek
    if t2.kind ≠ .documentStart then
      parseFault "" zeroMark "did not find expected <document start>" t2.start
    pushState .documentEnd
    setState .documentContent
    skipTok
    pure ⟨.documentStart, t.start, t2.stop⟩
  else
    setState .finished
    skipTok
    pure ⟨.streamEnd, t.start, t.stop⟩

def parseDocumentEnd : ParseM Event := do
  let t ← peek
  if t.kind = .documentEnd then skipTok
  modify fun p => { p with tagDirectives := [] }
  setState .documentStart
  pure ⟨.documentEnd, t.start, t.start⟩

/-- The full tag of a handle and suffix. -/
def expandTag (handle suffix : String) (start tagMark : Mark) : ParseM String := do
  if handle.isEmpty then return suffix
  match (← get).tagDirectives.find? (·.1 = handle) with
  | some (_, pfx) => pure (pfx ++ suffix)
  | none => parseFault "while parsing a node" start "found undefined tag handle" tagMark

/-- The node properties in front of a node: an anchor and a tag, in either order. -/
def nodeProperties : ParseM (String × Option (String × String × Mark) × Mark × Mark × Token) := do
  let t ← peek
  match t.kind with
  | .anchor name =>
    skipTok
    let t2 ← peek
    match t2.kind with
    | .tag h s =>
      skipTok
      pure (name, some (h, s, t2.start), t.start, t2.stop, ← peek)
    | _ => pure (name, none, t.start, t.stop, t2)
  | .tag h s =>
    skipTok
    let t2 ← peek
    match t2.kind with
    | .anchor name =>
      skipTok
      pure (name, some (h, s, t.start), t.start, t2.stop, ← peek)
    | _ => pure ("", some (h, s, t.start), t.start, t.stop, t2)
  | _ => pure ("", none, t.start, t.start, t)

def parseNode (block indentless : Bool) : ParseM Event := do
  let t ← peek
  if let .alias name := t.kind then
    popState
    skipTok
    return ⟨.alias name, t.start, t.stop⟩
  let (anchor, tagParts, start, stop, t) ← nodeProperties
  let tag ← match tagParts with
    | some (h, s, m) => expandTag h s start m
    | none => pure ""
  let hasTag := tagParts.isSome
  if indentless && t.kind = .blockEntry then
    setState .indentlessSequenceEntry
    return ⟨.sequenceStart anchor tag false, start, t.stop⟩
  match t.kind with
  | .scalar text style =>
    popState
    skipTok
    pure ⟨.scalar anchor tag text style, start, t.stop⟩
  | .flowSequenceStart =>
    setState .flowSequenceFirstEntry
    pure ⟨.sequenceStart anchor tag true, start, t.stop⟩
  | .flowMappingStart =>
    setState .flowMappingFirstKey
    pure ⟨.mappingStart anchor tag true, start, t.stop⟩
  | .blockSequenceStart =>
    if block then
      setState .blockSequenceFirstEntry
      pure ⟨.sequenceStart anchor tag false, start, t.stop⟩
    else fallback anchor tag hasTag start stop t
  | .blockMappingStart =>
    if block then
      setState .blockMappingFirstKey
      pure ⟨.mappingStart anchor tag false, start, t.stop⟩
    else fallback anchor tag hasTag start stop t
  | _ => fallback anchor tag hasTag start stop t
where
  fallback (anchor tag : String) (hasTag : Bool) (start stop : Mark) (t : Token) : ParseM Event := do
    if !anchor.isEmpty || hasTag then
      popState
      pure ⟨.scalar anchor tag "" .plain, start, stop⟩
    else
      parseFault (if block then "while parsing a block node" else "while parsing a flow node") start
        "did not find expected node content" t.start

def parseBlockSequenceEntry (first : Bool) : ParseM Event := do
  if first then
    pushMark (← peek).start
    skipTok
  let t ← peek
  match t.kind with
  | .blockEntry =>
    skipTok
    let t2 ← peek
    if t2.kind ≠ .blockEntry && t2.kind ≠ .blockEnd then
      pushState .blockSequenceEntry
      parseNode true false
    else
      setState .blockSequenceEntry
      pure (emptyScalar t.stop)
  | .blockEnd =>
    popState
    let _ ← popMark
    skipTok
    pure ⟨.sequenceEnd, t.start, t.stop⟩
  | _ =>
    let m ← popMark
    parseFault "while parsing a block collection" m "did not find expected '-' indicator" t.start

def parseIndentlessSequenceEntry : ParseM Event := do
  let t ← peek
  if t.kind = .blockEntry then
    skipTok
    let t2 ← peek
    if t2.kind ≠ .blockEntry && t2.kind ≠ .key && t2.kind ≠ .value && t2.kind ≠ .blockEnd then
      pushState .indentlessSequenceEntry
      parseNode true false
    else
      setState .indentlessSequenceEntry
      pure (emptyScalar t.stop)
  else
    popState
    pure ⟨.sequenceEnd, t.start, t.start⟩

def parseBlockMappingKey (first : Bool) : ParseM Event := do
  if first then
    pushMark (← peek).start
    skipTok
  let t ← peek
  match t.kind with
  | .key =>
    skipTok
    let t2 ← peek
    if t2.kind ≠ .key && t2.kind ≠ .value && t2.kind ≠ .blockEnd then
      pushState .blockMappingValue
      parseNode true true
    else
      setState .blockMappingValue
      pure (emptyScalar t.stop)
  | .blockEnd =>
    popState
    let _ ← popMark
    skipTok
    pure ⟨.mappingEnd, t.start, t.stop⟩
  | _ =>
    let m ← popMark
    parseFault "while parsing a block mapping" m "did not find expected key" t.start

def parseBlockMappingValue : ParseM Event := do
  let t ← peek
  if t.kind = .value then
    skipTok
    let t2 ← peek
    if t2.kind ≠ .key && t2.kind ≠ .value && t2.kind ≠ .blockEnd then
      pushState .blockMappingKey
      parseNode true true
    else
      setState .blockMappingKey
      pure (emptyScalar t.stop)
  else
    setState .blockMappingKey
    pure (emptyScalar t.start)

def parseFlowSequenceEntry (first : Bool) : ParseM Event := do
  if first then
    pushMark (← peek).start
    skipTok
  let t ← peek
  let t ← if t.kind ≠ .flowSequenceEnd && !first then
      if t.kind = .flowEntry then do
        skipTok
        peek
      else do
        let m ← popMark
        parseFault "while parsing a flow sequence" m "did not find expected ',' or ']'" t.start
    else pure t
  if t.kind = .key then
    setState .flowSequenceEntryMappingKey
    skipTok
    return ⟨.mappingStart "" "" true, t.start, t.stop⟩
  if t.kind ≠ .flowSequenceEnd then
    pushState .flowSequenceEntry
    return ← parseNode false false
  popState
  let _ ← popMark
  skipTok
  pure ⟨.sequenceEnd, t.start, t.stop⟩

def parseFlowSequenceEntryMappingKey : ParseM Event := do
  let t ← peek
  if t.kind ≠ .value && t.kind ≠ .flowEntry && t.kind ≠ .flowSequenceEnd then
    pushState .flowSequenceEntryMappingValue
    parseNode false false
  else
    setState .flowSequenceEntryMappingValue
    pure (emptyScalar t.start)

def parseFlowSequenceEntryMappingValue : ParseM Event := do
  let t ← peek
  if t.kind = .value then
    skipTok
    let t2 ← peek
    if t2.kind ≠ .flowEntry && t2.kind ≠ .flowSequenceEnd then
      pushState .flowSequenceEntryMappingEnd
      return ← parseNode false false
    setState .flowSequenceEntryMappingEnd
    return emptyScalar t2.start
  setState .flowSequenceEntryMappingEnd
  pure (emptyScalar t.start)

def parseFlowSequenceEntryMappingEnd : ParseM Event := do
  let t ← peek
  setState .flowSequenceEntry
  pure ⟨.mappingEnd, t.start, t.start⟩

def parseFlowMappingKey (first : Bool) : ParseM Event := do
  if first then
    pushMark (← peek).start
    skipTok
  let t ← peek
  let t ← if t.kind ≠ .flowMappingEnd && !first then
      if t.kind = .flowEntry then do
        skipTok
        peek
      else do
        let m ← popMark
        parseFault "while parsing a flow mapping" m "did not find expected ',' or '\x7d'" t.start
    else pure t
  if t.kind = .key then
    skipTok
    let t2 ← peek
    if t2.kind ≠ .value && t2.kind ≠ .flowEntry && t2.kind ≠ .flowMappingEnd then
      pushState .flowMappingValue
      return ← parseNode false false
    setState .flowMappingValue
    return emptyScalar t2.start
  if t.kind ≠ .flowMappingEnd then
    pushState .flowMappingEmptyValue
    return ← parseNode false false
  popState
  let _ ← popMark
  skipTok
  pure ⟨.mappingEnd, t.start, t.stop⟩

def parseFlowMappingValue (empty : Bool) : ParseM Event := do
  let t ← peek
  if empty then
    setState .flowMappingKey
    return emptyScalar t.start
  if t.kind = .value then
    skipTok
    let t2 ← peek
    if t2.kind ≠ .flowEntry && t2.kind ≠ .flowMappingEnd then
      pushState .flowMappingKey
      return ← parseNode false false
    setState .flowMappingKey
    return emptyScalar t2.start
  setState .flowMappingKey
  pure (emptyScalar t.start)

/-- The next event; after the stream's end, the end again. -/
def nextEvent : ParseM Event := do
  match (← get).state with
  | .streamStart => parseStreamStart
  | .implicitDocumentStart => parseDocumentStart true
  | .documentStart => parseDocumentStart false
  | .documentContent =>
    let t ← peek
    if isDirective t.kind || t.kind = .documentStart || t.kind = .documentEnd || t.kind = .streamEnd then
      popState
      pure (emptyScalar t.start)
    else parseNode true false
  | .documentEnd => parseDocumentEnd
  | .blockNode => parseNode true false
  | .blockNodeOrIndentlessSequence => parseNode true true
  | .flowNode => parseNode false false
  | .blockSequenceFirstEntry => parseBlockSequenceEntry true
  | .blockSequenceEntry => parseBlockSequenceEntry false
  | .indentlessSequenceEntry => parseIndentlessSequenceEntry
  | .blockMappingFirstKey => parseBlockMappingKey true
  | .blockMappingKey => parseBlockMappingKey false
  | .blockMappingValue => parseBlockMappingValue
  | .flowSequenceFirstEntry => parseFlowSequenceEntry true
  | .flowSequenceEntry => parseFlowSequenceEntry false
  | .flowSequenceEntryMappingKey => parseFlowSequenceEntryMappingKey
  | .flowSequenceEntryMappingValue => parseFlowSequenceEntryMappingValue
  | .flowSequenceEntryMappingEnd => parseFlowSequenceEntryMappingEnd
  | .flowMappingFirstKey => parseFlowMappingKey true
  | .flowMappingKey => parseFlowMappingKey false
  | .flowMappingValue => parseFlowMappingValue false
  | .flowMappingEmptyValue => parseFlowMappingValue true
  | .finished => let m := (← get).scanner.mark; pure ⟨.streamEnd, m, m⟩

theorem emptyScalar_start (m : Mark) : (emptyScalar m).start = m := rfl

end EInvoice.Yaml
