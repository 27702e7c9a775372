import CatalogQueue.Yaml.Event
import CatalogQueue.Yaml.Token.Lexer

/-!
The event reader: a state machine over tokens that emits the events of a YAML stream, one per
call of `Reader.next`, with the marks of the open collections kept for its problems.
-/

namespace CatalogQueue.Yaml

/-- What the reader expects next. -/
inductive ReadState where
  | streamStart
  | implicitDocumentStart
  | documentStart
  | documentContent
  | documentEnd
  | blockNode
  | blockNodeOrIndentlessSequence
  | flowNode
  | blockSequenceFirstEntry
  | blockSequenceEntry
  | indentlessSequenceEntry
  | blockMappingFirstKey
  | blockMappingKey
  | blockMappingValue
  | flowSequenceFirstEntry
  | flowSequenceEntry
  | flowSequenceEntryMappingKey
  | flowSequenceEntryMappingValue
  | flowSequenceEntryMappingEnd
  | flowMappingFirstKey
  | flowMappingKey
  | flowMappingValue
  | flowMappingEmptyValue
  | finished
  deriving DecidableEq, Inhabited

/-- The reader: its lexer, its state, the states to return to, the marks of the open
collections and the tag directives in force. -/
structure Reader where
  lexer : Lexer
  state : ReadState := .streamStart
  states : List ReadState := []
  marks : List Mark := []
  tags : List (String × List UInt8) := []

abbrev ReadM := StateT Reader (Except Problem)

def TokenKind.sameKind : TokenKind → TokenKind → Bool
  | .streamStart, .streamStart | .streamEnd, .streamEnd | .documentStart, .documentStart
  | .documentEnd, .documentEnd | .blockSequenceStart, .blockSequenceStart
  | .blockMappingStart, .blockMappingStart | .blockEnd, .blockEnd
  | .flowSequenceStart, .flowSequenceStart | .flowSequenceEnd, .flowSequenceEnd
  | .flowMappingStart, .flowMappingStart | .flowMappingEnd, .flowMappingEnd
  | .blockEntry, .blockEntry | .flowEntry, .flowEntry | .key, .key | .value, .value => true
  | .versionDirective .., .versionDirective .. | .tagDirective .., .tagDirective .. => true
  | .alias _, .alias _ | .anchor _, .anchor _ | .tag .., .tag .. | .scalar .., .scalar .. => true
  | _, _ => false

def Token.isOneOf (t : Token) (kinds : List TokenKind) : Bool :=
  kinds.any (TokenKind.sameKind t.kind)

namespace Reader

def start (text : String) : Reader := { lexer := Lexer.start text }

def lex {α : Type} (m : LexM α) : ReadM α := fun r =>
  match m.run r.lexer with
  | .ok (a, l) => .ok (a, { r with lexer := l })
  | .error e => .error e

def peek : ReadM Token := lex Lexer.peekToken

def skip : ReadM Unit := lex Lexer.skipToken

def goto (s : ReadState) : ReadM Unit := modify fun r => { r with state := s }

def push (s : ReadState) : ReadM Unit := modify fun r => { r with states := s :: r.states }

def pop : ReadM Unit := modify fun r =>
  match r.states with
  | s :: ss => { r with state := s, states := ss }
  | [] => { r with state := .finished }

def pushMark (m : Mark) : ReadM Unit := modify fun r => { r with marks := m :: r.marks }

def popMark : ReadM Mark := do
  let r ← get
  match r.marks with
  | m :: ms =>
    set { r with marks := ms }
    return m
  | [] => return {}

def failAt {α : Type} (problem : String) (m : Mark) : ReadM α :=
  throw { problem, mark := m }

def failIn {α : Type} (context : String) (at_ : Mark) (problem : String) (m : Mark) :
    ReadM α :=
  throw { problem, mark := m, context := some (context, at_) }

def empty (m : Mark) : Event × Mark := (.scalar {} "" .plain, m)

/-! ### Documents -/

def standardTags : List (String × List UInt8) :=
  [("!", [0x21]), ("!!", "tag:yaml.org,2002:".toUTF8.toList)]

def addTag (handle : String) (pre : List UInt8) (allowRepeat : Bool) (m : Mark) : ReadM Unit := do
  let r ← get
  if r.tags.any (·.1 == handle) then
    if allowRepeat then return
    failAt "found duplicate %TAG directive" m
  set { r with tags := r.tags ++ [(handle, pre)] }

def directives : ReadM Unit := do
  let mut version := false
  for _ in [0:(← get).lexer.budget] do
    let t ← peek
    match t.kind with
    | .versionDirective major minor =>
      if version then failAt "found duplicate %YAML directive" t.start
      if major != 1 || (minor != 1 && minor != 2) then
        failAt "found incompatible YAML document" t.start
      version := true
    | .tagDirective handle pre => addTag handle pre false t.start
    | _ => break
    skip
  let t ← peek
  for (handle, pre) in standardTags do
    addTag handle pre true t.start

def documentStart (implicit : Bool) : ReadM (Event × Mark) := do
  let mut t ← peek
  if !implicit then
    for _ in [0:(← get).lexer.budget] do
      if t.isOneOf [.documentEnd] then
        skip
        t ← peek
      else break
  if implicit && !t.isOneOf [.versionDirective 0 0, .tagDirective "" [], .documentStart,
      .streamEnd] then
    directives
    push .documentEnd
    goto .blockNode
    return (.documentStart, t.start)
  else if !t.isOneOf [.streamEnd] then
    let start := t.start
    directives
    let marker ← peek
    if !marker.isOneOf [.documentStart] then
      failAt "did not find expected <document start>" marker.start
    push .documentEnd
    goto .documentContent
    skip
    return (.documentStart, start)
  else
    goto .finished
    skip
    return (.streamEnd, t.start)

def documentContentEmpty : ReadM (Option (Event × Mark)) := do
  let t ← peek
  if t.isOneOf [.versionDirective 0 0, .tagDirective "" [], .documentStart, .documentEnd,
      .streamEnd] then
    pop
    return some (empty t.start)
  return none

def documentEnd : ReadM (Event × Mark) := do
  let t ← peek
  if t.isOneOf [.documentEnd] then skip
  modify fun r => { r with tags := [] }
  goto .documentStart
  return (.documentEnd, t.start)

/-! ### Nodes -/

def resolveTag (handle : String) (suffix : List UInt8) (start tagMark : Mark) : ReadM Tag := do
  if handle.isEmpty then return ⟨suffix⟩
  match (← get).tags.find? (·.1 == handle) with
  | some (_, pre) => return ⟨pre ++ suffix⟩
  | none => failIn "while parsing a node" start "found undefined tag handle" tagMark

/-- A node: an alias, or properties followed by a scalar or the start of a collection. In
block context a node may be a block collection; under a mapping key, a `-` right away starts
a sequence at the key's own indentation. -/
def node (block indentless : Bool) : ReadM (Event × Mark) := do
  let mut t ← peek
  if let .alias name := t.kind then
    pop
    skip
    return (.alias name, t.start)
  let mut start := t.start
  let mut anchor : Option String := none
  let mut tagParts : Option (String × List UInt8) := none
  let mut tagMark := t.start
  if let .anchor name := t.kind then
    anchor := some name
    skip
    t ← peek
    if let .tag handle suffix := t.kind then
      tagParts := some (handle, suffix)
      tagMark := t.start
      skip
      t ← peek
  else if let .tag handle suffix := t.kind then
    tagParts := some (handle, suffix)
    tagMark := t.start
    skip
    t ← peek
    if let .anchor name := t.kind then
      anchor := some name
      skip
      t ← peek
  let tag ← match tagParts with
    | some (handle, suffix) => some <$> resolveTag handle suffix start tagMark
    | none => pure none
  let props : NodeProps := { anchor, tag }
  if indentless && t.isOneOf [.blockEntry] then
    goto .indentlessSequenceEntry
    return (.sequenceStart props, start)
  match t.kind with
  | .scalar text style =>
    pop
    skip
    return (.scalar props text style, start)
  | .flowSequenceStart =>
    goto .flowSequenceFirstEntry
    return (.sequenceStart props, start)
  | .flowMappingStart =>
    goto .flowMappingFirstKey
    return (.mappingStart props, start)
  | .blockSequenceStart =>
    if block then
      goto .blockSequenceFirstEntry
      return (.sequenceStart props, start)
  | .blockMappingStart =>
    if block then
      goto .blockMappingFirstKey
      return (.mappingStart props, start)
  | _ => pure ()
  if anchor.isSome || tag.isSome then
    pop
    return (.scalar props "" .plain, start)
  failIn (if block then "while parsing a block node" else "while parsing a flow node") start
    "did not find expected node content" t.start

/-! ### Block collections -/

def openCollection : ReadM Unit := do
  pushMark (← peek).start
  skip

def blockSequenceEntry (first : Bool) : ReadM (Event × Mark) := do
  if first then openCollection
  let t ← peek
  if t.isOneOf [.blockEntry] then
    let m := t.stop
    skip
    let t ← peek
    if !t.isOneOf [.blockEntry, .blockEnd] then
      push .blockSequenceEntry
      node true false
    else
      goto .blockSequenceEntry
      return empty m
  else if t.isOneOf [.blockEnd] then
    pop
    discard popMark
    skip
    return (.sequenceEnd, t.start)
  else
    failIn "while parsing a block collection" (← popMark) "did not find expected '-' indicator"
      t.start

/-- An entry of a sequence written at the indentation of the mapping key it is the value of. -/
def indentlessSequenceEntry : ReadM (Event × Mark) := do
  let t ← peek
  if t.isOneOf [.blockEntry] then
    let m := t.stop
    skip
    let t ← peek
    if !t.isOneOf [.blockEntry, .key, .value, .blockEnd] then
      push .indentlessSequenceEntry
      node true false
    else
      goto .indentlessSequenceEntry
      return empty m
  else
    pop
    return (.sequenceEnd, t.start)

def blockMappingKey (first : Bool) : ReadM (Event × Mark) := do
  if first then openCollection
  let t ← peek
  if t.isOneOf [.key] then
    let m := t.stop
    skip
    let t ← peek
    if !t.isOneOf [.key, .value, .blockEnd] then
      push .blockMappingValue
      node true true
    else
      goto .blockMappingValue
      return empty m
  else if t.isOneOf [.blockEnd] then
    pop
    discard popMark
    skip
    return (.mappingEnd, t.start)
  else
    failIn "while parsing a block mapping" (← popMark) "did not find expected key" t.start

def blockMappingValue : ReadM (Event × Mark) := do
  let t ← peek
  if t.isOneOf [.value] then
    let m := t.stop
    skip
    let t ← peek
    if !t.isOneOf [.key, .value, .blockEnd] then
      push .blockMappingKey
      node true true
    else
      goto .blockMappingKey
      return empty m
  else
    goto .blockMappingKey
    return empty t.start

/-! ### Flow collections -/

def flowSequenceEntry (first : Bool) : ReadM (Event × Mark) := do
  if first then openCollection
  let mut t ← peek
  if !t.isOneOf [.flowSequenceEnd] then
    if !first then
      if t.isOneOf [.flowEntry] then
        skip
        t ← peek
      else
        failIn "while parsing a flow sequence" (← popMark) "did not find expected ',' or ']'"
          t.start
    if t.isOneOf [.key] then
      goto .flowSequenceEntryMappingKey
      skip
      return (.mappingStart {}, t.start)
    else if !t.isOneOf [.flowSequenceEnd] then
      push .flowSequenceEntry
      return (← node false false)
  pop
  discard popMark
  skip
  return (.sequenceEnd, t.start)

/-- The key of a one-pair mapping inside a flow sequence. A missing key is empty, and the
`:`, `,` or `]` found in its place is consumed with it, so that `[? : x]` leaves `x` where an
entry separator is expected and `[?]` leaves the sequence unclosed. -/
def flowSequenceEntryMappingKey : ReadM (Event × Mark) := do
  let t ← peek
  if !t.isOneOf [.value, .flowEntry, .flowSequenceEnd] then
    push .flowSequenceEntryMappingValue
    node false false
  else
    skip
    goto .flowSequenceEntryMappingValue
    return empty t.stop

def flowSequenceEntryMappingValue : ReadM (Event × Mark) := do
  let t ← peek
  if t.isOneOf [.value] then
    skip
    let t ← peek
    if !t.isOneOf [.flowEntry, .flowSequenceEnd] then
      push .flowSequenceEntryMappingEnd
      return (← node false false)
    goto .flowSequenceEntryMappingEnd
    return empty t.start
  goto .flowSequenceEntryMappingEnd
  return empty t.start

def flowSequenceEntryMappingEnd : ReadM (Event × Mark) := do
  let t ← peek
  goto .flowSequenceEntry
  return (.mappingEnd, t.start)

def flowMappingKey (first : Bool) : ReadM (Event × Mark) := do
  if first then openCollection
  let mut t ← peek
  if !t.isOneOf [.flowMappingEnd] then
    if !first then
      if t.isOneOf [.flowEntry] then
        skip
        t ← peek
      else
        failIn "while parsing a flow mapping" (← popMark) "did not find expected ',' or '\x7d'"
          t.start
    if t.isOneOf [.key] then
      skip
      let after ← peek
      if !after.isOneOf [.value, .flowEntry, .flowMappingEnd] then
        push .flowMappingValue
        return (← node false false)
      goto .flowMappingValue
      return empty after.start
    else if !t.isOneOf [.flowMappingEnd] then
      push .flowMappingEmptyValue
      return (← node false false)
  pop
  discard popMark
  skip
  return (.mappingEnd, t.start)

def flowMappingValue (emptyValue : Bool) : ReadM (Event × Mark) := do
  let t ← peek
  if emptyValue then
    goto .flowMappingKey
    return empty t.start
  if t.isOneOf [.value] then
    skip
    let t ← peek
    if !t.isOneOf [.flowEntry, .flowMappingEnd] then
      push .flowMappingKey
      return (← node false false)
    goto .flowMappingKey
    return empty t.start
  goto .flowMappingKey
  return empty t.start

/-! ### The machine -/

def next : ReadM (Event × Mark) := do
  match (← get).state with
  | .streamStart =>
    let t ← peek
    if !t.isOneOf [.streamStart] then failAt "did not find expected <stream-start>" t.start
    goto .implicitDocumentStart
    skip
    return (.streamStart, t.start)
  | .implicitDocumentStart => documentStart true
  | .documentStart => documentStart false
  | .documentContent =>
    match ← documentContentEmpty with
    | some e => return e
    | none => node true false
  | .documentEnd => documentEnd
  | .blockNode => node true false
  | .blockNodeOrIndentlessSequence => node true true
  | .flowNode => node false false
  | .blockSequenceFirstEntry => blockSequenceEntry true
  | .blockSequenceEntry => blockSequenceEntry false
  | .indentlessSequenceEntry => indentlessSequenceEntry
  | .blockMappingFirstKey => blockMappingKey true
  | .blockMappingKey => blockMappingKey false
  | .blockMappingValue => blockMappingValue
  | .flowSequenceFirstEntry => flowSequenceEntry true
  | .flowSequenceEntry => flowSequenceEntry false
  | .flowSequenceEntryMappingKey => flowSequenceEntryMappingKey
  | .flowSequenceEntryMappingValue => flowSequenceEntryMappingValue
  | .flowSequenceEntryMappingEnd => flowSequenceEntryMappingEnd
  | .flowMappingFirstKey => flowMappingKey true
  | .flowMappingKey => flowMappingKey false
  | .flowMappingValue => flowMappingValue false
  | .flowMappingEmptyValue => flowMappingValue true
  | .finished => return (.streamEnd, (← get).lexer.mark)

end Reader

end CatalogQueue.Yaml
