/-!
Tokens of YAML text, the places they start and end at, and the problems found while reading.
-/

namespace CatalogQueue.Yaml

/-- A place in YAML text: the offset in bytes of UTF-8, the line and the column in characters,
counted from zero. -/
structure Mark where
  index : Nat := 0
  line : Nat := 0
  column : Nat := 0
  deriving DecidableEq, Inhabited, Repr

namespace Mark

def render (m : Mark) : String :=
  "line " ++ toString (m.line + 1) ++ " column " ++ toString (m.column + 1)

def isOrigin (m : Mark) : Bool := m.line == 0 && m.column == 0

def samePlace (a b : Mark) : Bool := a.line == b.line && a.column == b.column

end Mark

/-- A problem found while reading YAML text: what went wrong and where, the byte offset for
problems found before any mark exists, and the construct being read when it went wrong. -/
structure Problem where
  problem : String
  mark : Mark := {}
  offset : Nat := 0
  context : Option (String × Mark) := none
  deriving Inhabited

/-- The text of a problem: `problem at line L column C, context at line L column C`, where
a context mark equal to the problem's mark is not repeated. -/
def Problem.message (p : Problem) : String :=
  let place :=
    if !p.mark.isOrigin then " at " ++ p.mark.render
    else if p.offset != 0 then " at position " ++ toString p.offset
    else ""
  let context := match p.context with
    | none => ""
    | some (c, m) =>
      ", " ++ c ++ (if !m.isOrigin && !m.samePlace p.mark then " at " ++ m.render else "")
  p.problem ++ place ++ context

inductive ScalarStyle where
  | plain
  | singleQuoted
  | doubleQuoted
  | literal
  | folded
  deriving DecidableEq, Inhabited, Repr

inductive TokenKind where
  | streamStart
  | streamEnd
  | versionDirective (major minor : Nat)
  | tagDirective (handle : String) (pre : List UInt8)
  | documentStart
  | documentEnd
  | blockSequenceStart
  | blockMappingStart
  | blockEnd
  | flowSequenceStart
  | flowSequenceEnd
  | flowMappingStart
  | flowMappingEnd
  | blockEntry
  | flowEntry
  | key
  | value
  | alias (name : String)
  | anchor (name : String)
  | tag (handle : String) (suffix : List UInt8)
  | scalar (text : String) (style : ScalarStyle)
  deriving Inhabited, Repr

structure Token where
  kind : TokenKind
  start : Mark
  stop : Mark
  deriving Inhabited

/-! Character classes of YAML text. The place past the end of the text reads as NUL. -/

/-- Line breaks: carriage return, line feed, next line, line and paragraph separators. -/
def isBreak (c : Char) : Bool :=
  c == '\r' || c == '\n' || c.toNat == 0x85 || c.toNat == 0x2028 || c.toNat == 0x2029

def isBlank (c : Char) : Bool := c == ' ' || c == '\t'

def isBreakZ (c : Char) : Bool := isBreak c || c == '\x00'

def isBlankZ (c : Char) : Bool := isBlank c || isBreakZ c

def isWordChar (c : Char) : Bool := c.isAlphanum || c == '_' || c == '-'

def isHexDigit (c : Char) : Bool :=
  c.isDigit || ('a' ≤ c && c ≤ 'f') || ('A' ≤ c && c ≤ 'F')

def hexValue (c : Char) : Nat :=
  if c.isDigit then c.toNat - '0'.toNat
  else if 'a' ≤ c && c ≤ 'f' then c.toNat - 'a'.toNat + 10
  else c.toNat - 'A'.toNat + 10

/-- Characters the reader admits: tab, line feed, carriage return, printable ASCII, next line,
and the printable planes outside the surrogates and the two non-characters at `FFFE`. -/
def isAdmitted (c : Char) : Bool :=
  let n := c.toNat
  n == 0x09 || n == 0x0A || n == 0x0D || (0x20 ≤ n && n ≤ 0x7E) || n == 0x85 ||
    (0xA0 ≤ n && n ≤ 0xD7FF) || (0xE000 ≤ n && n ≤ 0xFFFD) || (0x10000 ≤ n && n ≤ 0x10FFFF)

end CatalogQueue.Yaml
