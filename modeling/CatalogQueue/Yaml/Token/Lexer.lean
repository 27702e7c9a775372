import CatalogQueue.Yaml.Token

/-!
The lexer of YAML text. A key written without `?` is only known when its `:` arrives, so the
lexer keeps one place per flow level where such a key may have started (`SimpleKey`).
-/

namespace CatalogQueue.Yaml

/-- A place where a key without `?` may have started: whether it still may, whether it must
(a key at the indentation of a block mapping), the number of the token it would be, and
where it starts. -/
structure SimpleKey where
  possible : Bool := false
  required : Bool := false
  tokenNumber : Nat := 0
  mark : Mark := {}
  deriving Inhabited

/-- The state of the lexer: the unread text and its mark, the tokens found but not yet taken,
how many were taken, the flow depth, the indentation stack and the possible simple keys
(innermost flow level first). -/
structure Lexer where
  rest : List Char
  budget : Nat
  mark : Mark := {}
  queue : List Token := []
  taken : Nat := 0
  started : Bool := false
  ended : Bool := false
  flowLevel : Nat := 0
  indent : Int := -1
  indents : List Int := []
  keyAllowed : Bool := false
  keys : List SimpleKey := []

abbrev LexM := StateT Lexer (Except Problem)

namespace Lexer

def start (text : String) : Lexer := { rest := text.toList, budget := text.length + 1 }

def ahead (k : Nat) : LexM Char := do return ((← get).rest[k]?).getD '\x00'

def here : LexM Char := ahead 0

def place : LexM Mark := do return (← get).mark

/-- Stop with a problem at the current mark, found while reading the construct that starts
at `m`. -/
def failIn {α : Type} (context : String) (m : Mark) (problem : String) : LexM α := do
  throw { problem, mark := (← get).mark, context := some (context, m) }

def fail {α : Type} (problem : String) : LexM α := do
  throw { problem, mark := (← get).mark }

/-- Move past one character of a line; the index counts the bytes of its UTF-8 encoding. -/
def advance (s : Lexer) : Lexer :=
  match s.rest with
  | [] => s
  | c :: r => { s with rest := r, mark := { s.mark with index := s.mark.index + c.utf8Size,
                                                         column := s.mark.column + 1 } }

def skip : LexM Unit := modify advance

def skipN : Nat → LexM Unit
  | 0 => pure ()
  | n + 1 => do skip; skipN n

def lineStartAfter (m : Mark) (width : Nat) : Mark := ⟨m.index + width, m.line + 1, 0⟩

def skipLine : LexM Unit := modify fun s =>
  match s.rest with
  | '\r' :: '\n' :: r => { s with rest := r, mark := lineStartAfter s.mark 2 }
  | c :: r =>
    if isBreak c then { s with rest := r, mark := lineStartAfter s.mark c.utf8Size } else s
  | [] => s

def readChar (acc : String) : LexM String := do
  let c ← here
  skip
  return acc.push c

/-- Copy a line break to `acc` and skip it: carriage return, line feed, both together and
next line are copied as a line feed; line and paragraph separators as themselves. -/
def readLine (acc : String) : LexM String := do
  let s ← get
  match s.rest with
  | '\r' :: '\n' :: r =>
    set { s with rest := r, mark := lineStartAfter s.mark 2 }
    return acc.push '\n'
  | c :: r =>
    if c == '\r' || c == '\n' || c.toNat == 0x85 then
      set { s with rest := r, mark := lineStartAfter s.mark c.utf8Size }
      return acc.push '\n'
    else if c.toNat == 0x2028 || c.toNat == 0x2029 then
      set { s with rest := r, mark := lineStartAfter s.mark c.utf8Size }
      return acc.push c
    else return acc
  | [] => return acc

def skipWhile (p : Char → Bool) : LexM Unit := do
  for _ in [0:(← get).budget] do
    if p (← here) then skip else break

def readWhile (p : Char → Bool) (acc : String) : LexM String := do
  let mut acc := acc
  for _ in [0:(← get).budget] do
    if p (← here) then acc ← readChar acc else break
  return acc

def atDocumentIndicator : LexM Bool := do
  let c0 ← ahead 0
  let c1 ← ahead 1
  let c2 ← ahead 2
  let c3 ← ahead 3
  return (← get).mark.column == 0 &&
    ((c0 == '-' && c1 == '-' && c2 == '-') || (c0 == '.' && c1 == '.' && c2 == '.')) &&
    isBlankZ c3

/-! ### The token queue and simple keys -/

def enqueue (t : Token) : LexM Unit := modify fun s => { s with queue := s.queue ++ [t] }

def insertAt (i : Nat) (t : Token) : LexM Unit :=
  modify fun s => { s with queue := s.queue.take i ++ t :: s.queue.drop i }

def keyProblem (at_ : Mark) (k : SimpleKey) : Problem :=
  { problem := "could not find expected ':'", mark := at_,
    context := some ("while scanning a simple key", k.mark) }

/-- A simple key lapses when the line ends or more than 1024 bytes after its start. -/
def SimpleKey.refresh (at_ : Mark) (k : SimpleKey) : Except Problem SimpleKey :=
  if k.possible && (k.mark.line < at_.line || k.mark.index + 1024 < at_.index) then
    if k.required then throw (keyProblem at_ k) else pure { k with possible := false }
  else pure k

def staleKeys : LexM Unit := do
  let s ← get
  match s.keys.mapM (SimpleKey.refresh s.mark) with
  | .ok keys => set { s with keys }
  | .error e => throw e

def removeKey : LexM Unit := do
  let s ← get
  match s.keys with
  | k :: ks =>
    if k.possible && k.required then throw (keyProblem s.mark k)
    set { s with keys := { k with possible := false } :: ks }
  | [] => pure ()

def saveKey : LexM Unit := do
  let s ← get
  if s.keyAllowed then
    let key : SimpleKey :=
      { possible := true, required := s.flowLevel == 0 && s.indent == (s.mark.column : Int),
        tokenNumber := s.taken + s.queue.length, mark := s.mark }
    removeKey
    modify fun s => { s with keys := key :: s.keys.tail }

def increaseFlow : LexM Unit :=
  modify fun s => { s with keys := {} :: s.keys, flowLevel := s.flowLevel + 1 }

def decreaseFlow : LexM Unit :=
  modify fun s =>
    if s.flowLevel > 0 then { s with flowLevel := s.flowLevel - 1, keys := s.keys.tail } else s

/-- In block context, open a block collection at `column` if it is right of the current
indentation, with its start token at the end of the queue or at token number `number`. -/
def rollIndent (column : Int) (number : Option Nat) (kind : TokenKind) (m : Mark) :
    LexM Unit := do
  let s ← get
  if s.flowLevel == 0 && s.indent < column then
    set { s with indents := s.indent :: s.indents, indent := column }
    let t : Token := ⟨kind, m, m⟩
    match number with
    | none => enqueue t
    | some n => insertAt (n - s.taken) t

/-- How many block collections close when a line starts at `column`, and the indentation
and stack left after they do. -/
def unrollFrom (column : Int) : Int → List Int → Nat × Int × List Int
  | indent, i :: is =>
    if indent > column then
      let (n, ind, rest) := unrollFrom column i is
      (n + 1, ind, rest)
    else (0, indent, i :: is)
  | indent, [] => (0, indent, [])

def unrollIndent (column : Int) : LexM Unit := do
  let s ← get
  if s.flowLevel == 0 then
    let (n, indent, indents) := unrollFrom column s.indent s.indents
    set { s with indent, indents }
    for _ in [0:n] do
      enqueue ⟨.blockEnd, s.mark, s.mark⟩

/-! ### Between tokens -/

/-- Skip blanks, comments and line breaks up to the next token. A byte order mark at the start
of a line is skipped; tabs are skipped only where they cannot be indentation. -/
def scanToNextToken : LexM Unit := do
  for _ in [0:(← get).budget] do
    if (← get).mark.column == 0 && (← here).toNat == 0xFEFF then skip
    let s ← get
    let tabs := s.flowLevel > 0 || !s.keyAllowed
    skipWhile fun c => c == ' ' || (tabs && c == '\t')
    if (← here) == '#' then skipWhile fun c => !isBreakZ c
    if isBreak (← here) then
      skipLine
      if (← get).flowLevel == 0 then modify fun s => { s with keyAllowed := true }
    else break

/-! ### Directives -/

def scanVersionNumber (start : Mark) : LexM Nat := do
  let mut value := 0
  let mut length := 0
  for _ in [0:(← get).budget] do
    let c ← here
    if !c.isDigit then break
    length := length + 1
    if length > 9 then
      failIn "while scanning a %YAML directive" start "found extremely long version number"
    value := value * 10 + (c.toNat - '0'.toNat)
    skip
  if length == 0 then
    failIn "while scanning a %YAML directive" start "did not find expected version number"
  return value

def scanVersionValue (start : Mark) : LexM (Nat × Nat) := do
  skipWhile isBlank
  let major ← scanVersionNumber start
  if (← here) != '.' then
    failIn "while scanning a %YAML directive" start "did not find expected digit or '.' character"
  skip
  let minor ← scanVersionNumber start
  return (major, minor)

/-- A tag handle: `!`, `!!` or `!word!`. In a tag (not a directive) a handle without the
closing `!` is returned as read, as the start of the tag's suffix. -/
def scanTagHandle (directive : Bool) (start : Mark) : LexM String := do
  if (← here) != '!' then
    failIn (if directive then "while scanning a tag directive" else "while scanning a tag")
      start "did not find expected '!'"
  let mut handle ← readChar ""
  handle ← readWhile isWordChar handle
  if (← here) == '!' then
    handle ← readChar handle
  else if directive && handle != "!" then
    failIn "while parsing a tag directive" start "did not find expected '!'"
  return handle

def scanUriEscapes (directive : Bool) (start : Mark) : LexM (List UInt8) := do
  let context := if directive then "while parsing a %TAG directive" else "while parsing a tag"
  let mut octets : List UInt8 := []
  let mut width := 0
  for _ in [0:4] do
    let c0 ← ahead 0
    let c1 ← ahead 1
    let c2 ← ahead 2
    if !(c0 == '%' && isHexDigit c1 && isHexDigit c2) then
      failIn context start "did not find URI escaped octet"
    let octet := hexValue c1 * 16 + hexValue c2
    if width == 0 then
      width :=
        if octet < 0x80 then 1 else if octet / 32 == 6 then 2
        else if octet / 16 == 14 then 3 else if octet / 8 == 30 then 4 else 0
      if width == 0 then failIn context start "found an incorrect leading UTF-8 octet"
    else if octet / 64 != 2 then
      failIn context start "found an incorrect trailing UTF-8 octet"
    octets := octets ++ [octet.toUInt8]
    skipN 3
    if octets.length == width then break
  return octets

/-- Characters that may stand in a tag: word characters and `;/?:@&=+$.%!~*'()`, and inside
`!<...>` also `,[]`. -/
def isUriChar (verbatim : Bool) (c : Char) : Bool :=
  isWordChar c || ";/?:@&=+$.%!~*'()".toList.contains c || (verbatim && ",[]".toList.contains c)

/-- The octets of the URI part of a tag or a `%TAG` prefix, after `head` without its first
character. The octets end at the first NUL one (`%00`): what follows it is read but not kept. -/
def scanTagUri (verbatim directive : Bool) (head : String) (start : Mark) : LexM (List UInt8) := do
  let mut octets : List UInt8 := (String.ofList (head.toList.drop 1)).toUTF8.toList
  let mut length := head.length
  for _ in [0:(← get).budget] do
    let c ← here
    if !isUriChar verbatim c then break
    if c == '%' then
      octets := octets ++ (← scanUriEscapes directive start)
    else
      octets := octets ++ (String.singleton c).toUTF8.toList
      skip
    length := length + 1
  if length == 0 then
    failIn (if directive then "while parsing a %TAG directive" else "while parsing a tag")
      start "did not find expected tag URI"
  return octets.takeWhile (· != 0)

def scanTagDirectiveValue (start : Mark) : LexM (String × List UInt8) := do
  skipWhile isBlank
  let handle ← scanTagHandle true start
  if !isBlank (← here) then
    failIn "while scanning a %TAG directive" start "did not find expected whitespace"
  skipWhile isBlank
  let pre ← scanTagUri true true "" start
  if !isBlankZ (← here) then
    failIn "while scanning a %TAG directive" start
      "did not find expected whitespace or line break"
  return (handle, pre)

def scanDirective : LexM Token := do
  let start ← place
  skip
  let name ← readWhile isWordChar ""
  if name.isEmpty then
    failIn "while scanning a directive" start "could not find expected directive name"
  if !isBlankZ (← here) then
    failIn "while scanning a directive" start "found unexpected non-alphabetical character"
  let kind ←
    if name == "YAML" then do
      let (major, minor) ← scanVersionValue start
      pure (TokenKind.versionDirective major minor)
    else if name == "TAG" then do
      let (handle, pre) ← scanTagDirectiveValue start
      pure (TokenKind.tagDirective handle pre)
    else failIn "while scanning a directive" start "found unknown directive name"
  let stop ← place
  skipWhile isBlank
  if (← here) == '#' then skipWhile fun c => !isBreakZ c
  if !isBreakZ (← here) then
    failIn "while scanning a directive" start "did not find expected comment or line break"
  if isBreak (← here) then skipLine
  return ⟨kind, start, stop⟩

/-! ### Anchors, aliases and tags -/

def scanAnchor (isAnchor : Bool) : LexM Token := do
  let start ← place
  skip
  let name ← readWhile isWordChar ""
  let stop ← place
  let c ← here
  if name.isEmpty || !(isBlankZ c || "?:,]\x7d%@`".toList.contains c) then
    failIn (if isAnchor then "while scanning an anchor" else "while scanning an alias") start
      "did not find expected alphabetic or numeric character"
  return ⟨if isAnchor then .anchor name else .alias name, start, stop⟩

def scanTag : LexM Token := do
  let start ← place
  let (handle, suffix) ←
    if (← ahead 1) == '<' then do
      skipN 2
      let suffix ← scanTagUri true false "" start
      if (← here) != '>' then
        failIn "while scanning a tag" start "did not find the expected '>'"
      skip
      pure ("", suffix)
    else do
      let handle ← scanTagHandle false start
      if handle.length > 1 && handle.toList.head? == some '!' && handle.toList.getLast? == some '!' then
        let suffix ← scanTagUri false false "" start
        pure (handle, suffix)
      else
        let suffix ← scanTagUri false false handle start
        if suffix.isEmpty then pure ("", [0x21]) else pure ("!", suffix)
  let c ← here
  if !isBlankZ c && !((← get).flowLevel > 0 && c == ',') then
    failIn "while scanning a tag" start "did not find expected whitespace or line break"
  return ⟨.tag handle suffix, start, (← place)⟩

/-! ### Block scalars -/

/-- Line breaks and indentation before a line of a block scalar. With no indentation fixed yet,
the deepest indentation of the empty lines (but at least one more than the enclosing block
and at least one) becomes the scalar's indentation. Returns the indentation, the breaks read
and the mark after the last of them. -/
def scanBlockBreaks (indent : Nat) (start stop : Mark) : LexM (Nat × String × Mark) := do
  let mut breaks := ""
  let mut stop := stop
  let mut maxIndent := 0
  for _ in [0:(← get).budget] do
    for _ in [0:(← get).budget] do
      if (indent == 0 || (← get).mark.column < indent) && (← here) == ' ' then skip else break
    let column := (← get).mark.column
    if column > maxIndent then maxIndent := column
    if (indent == 0 || column < indent) && (← here) == '\t' then
      failIn "while scanning a block scalar" start
        "found a tab character where an indentation space is expected"
    if !isBreak (← here) then break
    breaks ← readLine breaks
    stop ← place
  let mut indent := indent
  if indent == 0 then
    let s ← get
    indent := max maxIndent (max (s.indent + 1).toNat 1)
  return (indent, breaks, stop)

/-- A block scalar, `|` (literal) or `>` (folded), with its chomping (`+` keep, `-` strip) and
indentation indicators. -/
def scanBlockScalar (literal : Bool) : LexM Token := do
  let start ← place
  skip
  let mut chomping : Int := 0
  let mut increment := 0
  let c ← here
  if c == '+' || c == '-' then
    chomping := if c == '+' then 1 else -1
    skip
    let d ← here
    if d.isDigit then
      if d == '0' then
        failIn "while scanning a block scalar" start "found an indentation indicator equal to 0"
      increment := d.toNat - '0'.toNat
      skip
  else if c.isDigit then
    if c == '0' then
      failIn "while scanning a block scalar" start "found an indentation indicator equal to 0"
    increment := c.toNat - '0'.toNat
    skip
    let d ← here
    if d == '+' || d == '-' then
      chomping := if d == '+' then 1 else -1
      skip
  skipWhile isBlank
  if (← here) == '#' then skipWhile fun c => !isBreakZ c
  if !isBreakZ (← here) then
    failIn "while scanning a block scalar" start "did not find expected comment or line break"
  if isBreak (← here) then skipLine
  let stop ← place
  let s ← get
  let indent := if increment == 0 then 0
    else if s.indent ≥ 0 then (s.indent + increment).toNat else increment
  let (indent, breaks, stop) ← scanBlockBreaks indent start stop
  let mut indent := indent
  let mut trailing := breaks
  let mut stop := stop
  let mut text := ""
  let mut leading := ""
  let mut leadingBlank := false
  for _ in [0:(← get).budget] do
    if (← get).mark.column != indent || (← here) == '\x00' then break
    let trailingBlank := isBlank (← here)
    if !literal && leading.toList.head? == some '\n' && !leadingBlank && !trailingBlank then
      if trailing.isEmpty then text := text.push ' '
    else
      text := text ++ leading
    leading := ""
    text := text ++ trailing
    trailing := ""
    leadingBlank := isBlank (← here)
    text ← readWhile (fun c => !isBreakZ c) text
    leading ← readLine ""
    let (newIndent, breaks, newStop) ← scanBlockBreaks indent start stop
    indent := newIndent
    trailing := breaks
    stop := newStop
  if chomping != -1 then text := text ++ leading
  if chomping == 1 then text := text ++ trailing
  return ⟨.scalar text (if literal then .literal else .folded), start, stop⟩

/-! ### Quoted scalars -/

def escapeOf (c : Char) : Option Char :=
  match c with
  | '0' => some '\x00' | 'a' => some '\x07' | 'b' => some '\x08' | 't' => some '\t'
  | '\t' => some '\t' | 'n' => some '\n' | 'v' => some '\x0b' | 'f' => some '\x0c'
  | 'r' => some '\r' | 'e' => some '\x1b' | ' ' => some ' ' | '"' => some '"'
  | '/' => some '/' | '\\' => some '\\' | 'N' => some (Char.ofNat 0x85)
  | '_' => some (Char.ofNat 0xA0) | 'L' => some (Char.ofNat 0x2028)
  | 'P' => some (Char.ofNat 0x2029) | _ => none

def codeLength (c : Char) : Nat :=
  if c == 'x' then 2 else if c == 'u' then 4 else if c == 'U' then 8 else 0

def scanCodeEscape (start : Mark) (n : Nat) : LexM Char := do
  let mut value := 0
  for k in [0:n] do
    let c ← ahead k
    if !isHexDigit c then
      failIn "while parsing a quoted scalar" start "did not find expected hexadecimal number"
    value := value * 16 + hexValue c
  if (0xD800 ≤ value && value ≤ 0xDFFF) || value > 0x10FFFF then
    failIn "while parsing a quoted scalar" start "found invalid Unicode character escape code"
  skipN n
  return Char.ofNat value

/-- Join what stood between two runs of text of a quoted or plain scalar: the first line
break folds to a space when no empty lines follow it and disappears when some do, unless it
is a line or paragraph separator, which is kept. -/
def foldBreaks (text leading trailing : String) : String :=
  if leading.toList.head? == some '\n' then
    if trailing.isEmpty then text.push ' ' else text ++ trailing
  else text ++ leading ++ trailing

def scanFlowScalar (single : Bool) : LexM Token := do
  let start ← place
  skip
  let quote := if single then '\'' else '"'
  let mut text := ""
  for _ in [0:(← get).budget] do
    if ← atDocumentIndicator then
      failIn "while scanning a quoted scalar" start "found unexpected document indicator"
    if (← here) == '\x00' then
      failIn "while scanning a quoted scalar" start "found unexpected end of stream"
    let mut leadingBlanks := false
    for _ in [0:(← get).budget] do
      let c ← here
      if isBlankZ c then break
      let c1 ← ahead 1
      if single && c == '\'' && c1 == '\'' then
        text := text.push '\''
        skipN 2
      else if c == quote then break
      else if !single && c == '\\' && isBreak c1 then
        skip
        skipLine
        leadingBlanks := true
        break
      else if !single && c == '\\' then
        let n := codeLength c1
        if n == 0 then
          match escapeOf c1 with
          | some e =>
            text := text.push e
            skipN 2
          | none => failIn "while parsing a quoted scalar" start "found unknown escape character"
        else
          skipN 2
          text := text.push (← scanCodeEscape start n)
      else
        text ← readChar text
    if (← here) == quote then break
    let mut whitespace := ""
    let mut leading := ""
    let mut trailing := ""
    for _ in [0:(← get).budget] do
      let c ← here
      if isBlank c then
        if leadingBlanks then skip else whitespace ← readChar whitespace
      else if isBreak c then
        if leadingBlanks then
          trailing ← readLine trailing
        else
          whitespace := ""
          leading ← readLine leading
          leadingBlanks := true
      else break
    text := if leadingBlanks then foldBreaks text leading trailing else text ++ whitespace
  skip
  return ⟨.scalar text (if single then .singleQuoted else .doubleQuoted), start, (← place)⟩

/-! ### Plain scalars -/

/-- A plain scalar: it runs over lines indented deeper than the enclosing block, up to `: `, a
comment, a document indicator, and in flow context `,[]{}`. -/
def scanPlainScalar : LexM Token := do
  let start ← place
  let indent := (← get).indent + 1
  let mut stop := start
  let mut text := ""
  let mut leadingBlanks := false
  let mut whitespace := ""
  let mut leading := ""
  let mut trailing := ""
  for _ in [0:(← get).budget] do
    if ← atDocumentIndicator then break
    if (← here) == '#' then break
    let flow := (← get).flowLevel > 0
    for _ in [0:(← get).budget] do
      let c ← here
      if isBlankZ c then break
      let c1 ← ahead 1
      if flow && c == ':' && ",?[]\x7b\x7d".toList.contains c1 then
        failIn "while scanning a plain scalar" start "found unexpected ':'"
      if (c == ':' && isBlankZ c1) || (flow && ",[]\x7b\x7d".toList.contains c) then break
      if leadingBlanks then
        text := foldBreaks text leading trailing
        leading := ""
        trailing := ""
        leadingBlanks := false
      else if !whitespace.isEmpty then
        text := text ++ whitespace
        whitespace := ""
      text ← readChar text
      stop ← place
    let c ← here
    if !(isBlank c || isBreak c) then break
    for _ in [0:(← get).budget] do
      let c ← here
      if isBlank c then
        if leadingBlanks && ((← get).mark.column : Int) < indent && c == '\t' then
          failIn "while scanning a plain scalar" start
            "found a tab character that violates indentation"
        if leadingBlanks then skip else whitespace ← readChar whitespace
      else if isBreak c then
        if leadingBlanks then
          trailing ← readLine trailing
        else
          whitespace := ""
          leading ← readLine leading
          leadingBlanks := true
      else break
    if !flow && ((← get).mark.column : Int) < indent then break
  if leadingBlanks then modify fun s => { s with keyAllowed := true }
  return ⟨.scalar text .plain, start, stop⟩

/-! ### Fetching tokens -/

def firstRefused (cs : List Char) : Option Nat :=
  let rec go : List Char → Nat → Option Nat
    | [], _ => none
    | c :: r, offset => if isAdmitted c then go r (offset + c.utf8Size) else some offset
  go cs 0

/-- The first token. The whole text is checked for characters the reader does not admit. -/
def fetchStreamStart : LexM Unit := do
  let s ← get
  if let some offset := firstRefused s.rest then
    throw { problem := "control characters are not allowed", offset }
  set { s with indent := -1, keys := [({} : SimpleKey)], keyAllowed := true, started := true }
  enqueue ⟨.streamStart, s.mark, s.mark⟩

def fetchStreamEnd : LexM Unit := do
  modify fun s =>
    if s.mark.column != 0 then { s with mark := { s.mark with column := 0, line := s.mark.line + 1 } }
    else s
  unrollIndent (-1)
  removeKey
  modify fun s => { s with keyAllowed := false, ended := true }
  let m ← place
  enqueue ⟨.streamEnd, m, m⟩

/-- Close the blocks, forget the key, and allow no key after: the common start of directives
and document markers. -/
def closeBlocks : LexM Unit := do
  unrollIndent (-1)
  removeKey
  modify fun s => { s with keyAllowed := false }

def fetchIndicator (kind : TokenKind) (n : Nat) : LexM Unit := do
  let start ← place
  skipN n
  enqueue ⟨kind, start, (← place)⟩

def allowKey (b : Bool) : LexM Unit := modify fun s => { s with keyAllowed := b }

def fetchBlockEntry : LexM Unit := do
  let s ← get
  if s.flowLevel == 0 then
    if !s.keyAllowed then fail "block sequence entries are not allowed in this context"
    rollIndent s.mark.column none .blockSequenceStart s.mark
  removeKey
  allowKey true
  fetchIndicator .blockEntry 1

def fetchKey : LexM Unit := do
  let s ← get
  if s.flowLevel == 0 then
    if !s.keyAllowed then fail "mapping keys are not allowed in this context"
    rollIndent s.mark.column none .blockMappingStart s.mark
  removeKey
  allowKey ((← get).flowLevel == 0)
  fetchIndicator .key 1

def fetchValue : LexM Unit := do
  let s ← get
  match s.keys with
  | k :: ks =>
    if k.possible then
      insertAt (k.tokenNumber - s.taken) ⟨.key, k.mark, k.mark⟩
      rollIndent k.mark.column (some k.tokenNumber) .blockMappingStart k.mark
      modify fun s => { s with keys := { k with possible := false } :: ks, keyAllowed := false }
    else
      if s.flowLevel == 0 then
        if !s.keyAllowed then fail "mapping values are not allowed in this context"
        rollIndent s.mark.column none .blockMappingStart s.mark
      allowKey (s.flowLevel == 0)
  | [] => pure ()
  fetchIndicator .value 1

def fetchNext : LexM Unit := do
  if !(← get).started then
    fetchStreamStart
    return
  scanToNextToken
  staleKeys
  unrollIndent (← get).mark.column
  let c ← here
  let c1 ← ahead 1
  let s ← get
  let flow := s.flowLevel > 0
  let column0 := s.mark.column == 0
  if c == '\x00' then fetchStreamEnd
  else if column0 && c == '%' then
    closeBlocks
    enqueue (← scanDirective)
  else if column0 && (← atDocumentIndicator) && c == '-' then
    closeBlocks
    fetchIndicator .documentStart 3
  else if column0 && (← atDocumentIndicator) && c == '.' then
    closeBlocks
    fetchIndicator .documentEnd 3
  else if c == '[' || c == '{' then
    saveKey
    increaseFlow
    allowKey true
    fetchIndicator (if c == '[' then .flowSequenceStart else .flowMappingStart) 1
  else if c == ']' || c == '}' then
    removeKey
    decreaseFlow
    allowKey false
    fetchIndicator (if c == ']' then .flowSequenceEnd else .flowMappingEnd) 1
  else if c == ',' then
    removeKey
    allowKey true
    fetchIndicator .flowEntry 1
  else if c == '-' && isBlankZ c1 then fetchBlockEntry
  else if c == '?' && (flow || isBlankZ c1) then fetchKey
  else if c == ':' && (flow || isBlankZ c1) then fetchValue
  else if c == '*' || c == '&' then
    saveKey
    allowKey false
    enqueue (← scanAnchor (c == '&'))
  else if c == '!' then
    saveKey
    allowKey false
    enqueue (← scanTag)
  else if (c == '|' || c == '>') && !flow then
    removeKey
    allowKey true
    enqueue (← scanBlockScalar (c == '|'))
  else if c == '\'' || c == '"' then
    saveKey
    allowKey false
    enqueue (← scanFlowScalar (c == '\''))
  else if !(isBlankZ c || "-?:,[]\x7b\x7d#&*!|>'\"%@`".toList.contains c) ||
      (c == '-' && !isBlank c1) || (!flow && (c == '?' || c == ':') && !isBlankZ c1) then
    saveKey
    allowKey false
    enqueue (← scanPlainScalar)
  else
    failIn "while scanning for the next token" (← place)
      "found character that cannot start any token"

/-- Whether the queue must grow before its head can be handed out: it is empty, or its head
may still turn out to follow a key token not yet inserted. -/
def needsMore : LexM Bool := do
  let s ← get
  if s.queue.isEmpty then return !s.ended
  staleKeys
  let s ← get
  return s.keys.any fun k => k.possible && k.tokenNumber == s.taken

/-- Fetch tokens until the head of the queue is settled. Each fetch reads at least one
character or ends the text, so the length of the text bounds the rounds. -/
def fetchMore : LexM Unit := do
  for _ in [0:2 * (← get).budget + 2] do
    if !(← needsMore) then break
    fetchNext

def peekToken : LexM Token := do
  fetchMore
  let s ← get
  match s.queue with
  | t :: _ => return t
  | [] => return ⟨.streamEnd, s.mark, s.mark⟩

def skipToken : LexM Unit :=
  modify fun s => match s.queue with
    | _ :: q => { s with queue := q, taken := s.taken + 1 }
    | [] => s

end Lexer

end CatalogQueue.Yaml
