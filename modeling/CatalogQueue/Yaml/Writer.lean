import CatalogQueue.Yaml.Token
import CatalogQueue.Yaml.Scalar

/-!
Writing YAML text: block collections, empty ones as `[]` and `{}`, and each scalar in the
plainest style that reads back as the same text.
-/

namespace CatalogQueue.Yaml

inductive Requested where
  | any
  | plain
  | singleQuoted
  | literal
  deriving DecidableEq, Inhabited

inductive Node where
  | scalar (text : String) (style : Requested)
  | sequence (items : List Node)
  | mapping (entries : List (Node × Node))
  deriving Inhabited

/-- The style in which text is asked to be written: a literal block for text with a line feed,
single quotes for text that would read back as another value, any style otherwise. -/
def Node.textStyle (text : String) : Requested :=
  if text.toList.contains '\n' then .literal
  else match Scalar.resolve text with
    | .null | .bool _ | .unsigned _ | .signed _ | .wideUnsigned _ | .wideSigned _ | .float _ =>
      .singleQuoted
    | .text => if Scalar.isZeroPadded text then .singleQuoted else .any

def Node.text (s : String) : Node := .scalar s (Node.textStyle s)

def Node.plain (s : String) : Node := .scalar s .plain

/-! ### Characters -/

def isPrintable (c : Char) : Bool :=
  let n := c.toNat
  n == 0x0A || (0x20 ≤ n && n ≤ 0x7E) || (0xA0 ≤ n && n ≤ 0xD7FF) ||
    (0xE000 ≤ n && n ≤ 0xFFFD && n != 0xFEFF) || 0x10000 ≤ n

/-- What the characters of a scalar allow. -/
structure ScalarFacts where
  multiline : Bool
  flowPlain : Bool
  blockPlain : Bool
  singleQuoted : Bool
  block : Bool

def followedByBlank (cs : Array Char) (i : Nat) : Bool :=
  match cs[i + 1]? with
  | some d => isBlankZ d
  | none => true

def analyze (text : String) : ScalarFacts := Id.run do
  let cs := text.toList.toArray
  if cs.isEmpty then
    return { multiline := false, flowPlain := false, blockPlain := true, singleQuoted := true,
             block := false }
  let startsDocument :=
    (cs[0]? == some '-' && cs[1]? == some '-' && cs[2]? == some '-') ||
    (cs[0]? == some '.' && cs[1]? == some '.' && cs[2]? == some '.')
  let mut blockIndicators := startsDocument
  let mut flowIndicators := startsDocument
  let mut lineBreaks := false
  let mut special := false
  let mut leadingSpace := false
  let mut leadingBreak := false
  let mut trailingSpace := false
  let mut trailingBreak := false
  let mut breakSpace := false
  let mut spaceBreak := false
  let mut precededByBlank := true
  let mut previousSpace := false
  let mut previousBreak := false
  for h : i in [0:cs.size] do
    let c := cs[i]
    let followed := followedByBlank cs i
    if i == 0 then
      if "#,[]\x7b\x7d&*!|>'\"%@`".toList.contains c then
        flowIndicators := true
        blockIndicators := true
      if c == '?' || c == ':' then
        flowIndicators := true
        if followed then blockIndicators := true
      if c == '-' && followed then
        flowIndicators := true
        blockIndicators := true
    else
      if ",?[]\x7b\x7d".toList.contains c then flowIndicators := true
      if c == ':' then
        flowIndicators := true
        if followed then blockIndicators := true
      if c == '#' && precededByBlank then
        flowIndicators := true
        blockIndicators := true
    if !isPrintable c then special := true
    if isBreak c then lineBreaks := true
    let last := i + 1 == cs.size
    if c == ' ' then
      if i == 0 then leadingSpace := true
      if last then trailingSpace := true
      if previousBreak then breakSpace := true
      previousSpace := true
      previousBreak := false
    else if isBreak c then
      if i == 0 then leadingBreak := true
      if last then trailingBreak := true
      if previousSpace then spaceBreak := true
      previousSpace := false
      previousBreak := true
    else
      previousSpace := false
      previousBreak := false
    precededByBlank := isBlankZ c
  let edges := leadingSpace || leadingBreak || trailingSpace || trailingBreak
  let allBut := spaceBreak || special
  return {
    multiline := lineBreaks
    flowPlain := !(edges || breakSpace || allBut || lineBreaks || flowIndicators)
    blockPlain := !(edges || breakSpace || allBut || lineBreaks || blockIndicators)
    singleQuoted := !(breakSpace || allBut)
    block := !(trailingSpace || allBut) }

inductive Style where
  | plain
  | singleQuoted
  | doubleQuoted
  | literal
  deriving DecidableEq

/-- The style a scalar is written in, from the style asked for and what its text allows. -/
def chooseStyle (requested : Requested) (facts : ScalarFacts) (empty flow simpleKey : Bool) :
    Style := Id.run do
  let mut style : Style := match requested with
    | .any | .plain => .plain
    | .singleQuoted => .singleQuoted
    | .literal => .literal
  if simpleKey && facts.multiline then style := .doubleQuoted
  if style == .plain then
    if (flow && !facts.flowPlain) || (!flow && !facts.blockPlain) then style := .singleQuoted
    if empty && (flow || simpleKey) then style := .singleQuoted
  if style == .singleQuoted && !facts.singleQuoted then style := .doubleQuoted
  if style == .literal && (!facts.block || flow || simpleKey) then style := .doubleQuoted
  return style

/-! ### The writer -/

/-- The state of a writer: the text so far, the column, the indentation and its stack, whether
the last character written was a blank (`whitespace`) and whether only indentation was written
on the line (`indention`), and the flow depth. -/
structure Writer where
  out : String := ""
  column : Nat := 0
  indent : Int := -1
  indents : List Int := []
  whitespace : Bool := true
  indention : Bool := true
  flowLevel : Nat := 0

abbrev WriteM := StateM Writer

namespace Writer

def put (c : Char) : WriteM Unit :=
  modify fun w => { w with out := w.out.push c, column := w.column + 1 }

def putBreak : WriteM Unit :=
  modify fun w => { w with out := w.out.push '\n', column := 0 }

def writeBreak (c : Char) : WriteM Unit :=
  if c == '\n' then putBreak
  else modify fun w => { w with out := w.out.push c, column := 0 }

/-- Go to the current indentation: on a new line unless only indentation was written so far
on this one, then spaces up to the indentation. -/
def writeIndent : WriteM Unit := do
  let w ← get
  let indent := if w.indent ≥ 0 then w.indent.toNat else 0
  if !w.indention || w.column > indent || (w.column == indent && !w.whitespace) then putBreak
  let column := (← get).column
  for _ in [column:indent] do put ' '
  modify fun w => { w with whitespace := true, indention := true }

def writeIndicator (s : String) (needSpace isSpace isIndention : Bool) : WriteM Unit := do
  if needSpace && !(← get).whitespace then put ' '
  for c in s.toList do put c
  modify fun w =>
    { w with whitespace := isSpace, indention := w.indention && isIndention }

/-- Open a deeper indentation: two more columns, or none for a sequence written at its key's
indentation; the first level is column 0 (two in flow context). -/
def increaseIndent (flow indentless : Bool) : WriteM Unit :=
  modify fun w =>
    let indent :=
      if w.indent < 0 then (if flow then 2 else 0)
      else if indentless then w.indent else w.indent + 2
    { w with indents := w.indent :: w.indents, indent }

def popIndent : WriteM Unit :=
  modify fun w => match w.indents with
    | i :: is => { w with indent := i, indents := is }
    | [] => { w with indent := -1 }

/-! ### Scalars -/

def writePlain (text : String) : WriteM Unit := do
  let w ← get
  if !w.whitespace && (!text.isEmpty || w.flowLevel > 0) then put ' '
  let mut breaks := false
  for c in text.toList do
    if c == ' ' then
      put c
    else if isBreak c then
      if !breaks && c == '\n' then putBreak
      writeBreak c
      modify fun w => { w with indention := true }
      breaks := true
    else
      if breaks then writeIndent
      put c
      modify fun w => { w with indention := false }
      breaks := false
  modify fun w => { w with whitespace := false, indention := false }

def writeSingleQuoted (text : String) : WriteM Unit := do
  writeIndicator "'" true false false
  let mut breaks := false
  for c in text.toList do
    if c == ' ' then
      put c
    else if isBreak c then
      if !breaks && c == '\n' then putBreak
      writeBreak c
      modify fun w => { w with indention := true }
      breaks := true
    else
      if breaks then writeIndent
      if c == '\'' then put '\''
      put c
      modify fun w => { w with indention := false }
      breaks := false
  if breaks then writeIndent
  writeIndicator "'" false false false
  modify fun w => { w with whitespace := false, indention := false }

def upperHex (width n : Nat) : String :=
  let digits := (List.range width).reverse.map fun k =>
    let d := n / Nat.pow 16 k % 16
    Char.ofNat (if d < 10 then 48 + d else 55 + d)
  String.ofList digits

def escapeOf (c : Char) : String :=
  match c.toNat with
  | 0x00 => "0" | 0x07 => "a" | 0x08 => "b" | 0x09 => "t" | 0x0A => "n" | 0x0B => "v"
  | 0x0C => "f" | 0x0D => "r" | 0x1B => "e" | 0x22 => "\"" | 0x5C => "\\" | 0x85 => "N"
  | 0xA0 => "_" | 0x2028 => "L" | 0x2029 => "P"
  | n =>
    if n ≤ 0xFF then "x" ++ upperHex 2 n
    else if n ≤ 0xFFFF then "u" ++ upperHex 4 n
    else "U" ++ upperHex 8 n

/-- Text in double quotes, with escapes for what is not printable, byte order marks, line
breaks, quotes and backslashes. -/
def writeDoubleQuoted (text : String) : WriteM Unit := do
  writeIndicator "\"" true false false
  for c in text.toList do
    if !isPrintable c || c.toNat == 0xFEFF || isBreak c || c == '"' || c == '\\' then
      put '\\'
      for e in (escapeOf c).toList do put e
    else put c
  writeIndicator "\"" false false false
  modify fun w => { w with whitespace := false, indention := false }

/-- A literal block: `|`, an indentation hint when the text starts with a space or a break,
a chomping hint (`-` when the text does not end with a break, `+` when it ends with two), then
the lines at the current indentation. -/
def writeLiteral (text : String) : WriteM Unit := do
  writeIndicator "|" true false false
  let cs := text.toList
  match cs.head? with
  | some c => if c == ' ' || isBreak c then writeIndicator "2" false false false
  | none => pure ()
  let rev := cs.reverse
  let chomp : Option String := match rev with
    | [] => some "-"
    | c :: rest =>
      if !isBreak c then some "-"
      else match rest with
        | [] => some "+"
        | d :: _ => if isBreak d then some "+" else none
  if let some h := chomp then writeIndicator h false false false
  putBreak
  modify fun w => { w with indention := true, whitespace := true }
  let mut breaks := true
  for c in cs do
    if isBreak c then
      writeBreak c
      modify fun w => { w with indention := true }
      breaks := true
    else
      if breaks then writeIndent
      put c
      modify fun w => { w with indention := false }
      breaks := false

/-- Where a node is written: at the top, as a sequence item, as a mapping key or value, and
whether as a key written without `?`. -/
structure Place where
  root : Bool := false
  sequence : Bool := false
  mapping : Bool := false
  simpleKey : Bool := false

def writeScalar (place : Place) (text : String) (requested : Requested) : WriteM Unit := do
  let w ← get
  let style := chooseStyle requested (analyze text) text.isEmpty (w.flowLevel > 0) place.simpleKey
  increaseIndent true false
  match style with
  | .plain => writePlain text
  | .singleQuoted => writeSingleQuoted text
  | .doubleQuoted => writeDoubleQuoted text
  | .literal => writeLiteral text
  popIndent

/-- Whether a key can be written without `?`: a scalar on one line of at most 128 bytes, or
an empty collection. -/
def isSimpleKey : Node → Bool
  | .scalar t _ => !(analyze t).multiline && t.utf8ByteSize ≤ 128
  | .sequence items => items.isEmpty
  | .mapping entries => entries.isEmpty

mutual

def writeNode (place : Place) : Node → WriteM Unit
  | .scalar t s => writeScalar place t s
  | .sequence items => do
    if (← get).flowLevel > 0 || items.isEmpty then
      writeIndicator "[" true true false
      increaseIndent true false
      modify fun w => { w with flowLevel := w.flowLevel + 1 }
      writeFlowItems true items
      modify fun w => { w with flowLevel := w.flowLevel - 1 }
      popIndent
      writeIndicator "]" false false false
    else
      let w ← get
      increaseIndent false (place.mapping && !w.indention)
      writeBlockItems items
      popIndent
  | .mapping entries => do
    if (← get).flowLevel > 0 || entries.isEmpty then
      writeIndicator "\x7b" true true false
      increaseIndent true false
      modify fun w => { w with flowLevel := w.flowLevel + 1 }
      writeFlowEntries true entries
      modify fun w => { w with flowLevel := w.flowLevel - 1 }
      popIndent
      writeIndicator "\x7d" false false false
    else
      increaseIndent false false
      writeBlockEntries entries
      popIndent

def writeBlockItems : List Node → WriteM Unit
  | [] => pure ()
  | n :: ns => do
    writeIndent
    writeIndicator "-" true false true
    writeNode { sequence := true } n
    writeBlockItems ns

def writeBlockEntries : List (Node × Node) → WriteM Unit
  | [] => pure ()
  | (k, v) :: rest => do
    writeIndent
    if isSimpleKey k then
      writeNode { mapping := true, simpleKey := true } k
      writeIndicator ":" false false false
    else
      writeIndicator "?" true false true
      writeNode { mapping := true } k
      writeIndent
      writeIndicator ":" true false true
    writeNode { mapping := true } v
    writeBlockEntries rest

def writeFlowItems (first : Bool) : List Node → WriteM Unit
  | [] => pure ()
  | n :: ns => do
    if !first then writeIndicator "," false false false
    writeNode { sequence := true } n
    writeFlowItems false ns

def writeFlowEntries (first : Bool) : List (Node × Node) → WriteM Unit
  | [] => pure ()
  | (k, v) :: rest => do
    if !first then writeIndicator "," false false false
    if isSimpleKey k then
      writeNode { mapping := true, simpleKey := true } k
      writeIndicator ":" false false false
    else
      writeIndicator "?" true false false
      writeNode { mapping := true } k
      writeIndicator ":" true false false
    writeNode { mapping := true } v
    writeFlowEntries false rest

end

end Writer

/-- The text of a document holding `node`. No document end marker is written, also not after a
literal block that keeps its final line breaks. -/
def Node.render (node : Node) : String :=
  let body : WriteM Unit := do
    Writer.writeNode { root := true } node
    Writer.writeIndent
  (body.run {}).2.out

end CatalogQueue.Yaml
