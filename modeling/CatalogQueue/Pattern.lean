import CatalogQueue.Text.Fold
/-!
Wildcard name patterns and the regular expressions they are compiled to. A pattern's alternatives
are separated by `|`; an alternative matches a whole name by `Glob.Matches`. A pattern is matched
through a regular-expression library (`Regex.Library`), as one anchored, case-insensitive
expression whose branches are the non-empty alternatives, escaped and rewritten (`regexSource`).
-/

namespace CatalogQueue

inductive Glob.Piece where
  /-- `*`: any run of characters, possibly empty. -/
  | anyRun
  /-- `?`: exactly one character. -/
  | anyOne
  /-- Any other character, compared up to case. -/
  | literal (c : Char)
  deriving DecidableEq, Repr, Inhabited

abbrev Glob := List Glob.Piece

namespace Glob

def ofChars (cs : List Char) : Glob :=
  cs.map fun c => if c = '*' then .anyRun else if c = '?' then .anyOne else .literal c

def suffixes {α : Type} : List α → List (List α)
  | [] => [[]]
  | a :: as => (a :: as) :: suffixes as

/-- Whether an alternative matches a whole name, by recursion on the alternative. -/
def Matches : Glob → List Char → Bool
  | [], name => name.isEmpty
  | .anyRun :: g, name => (suffixes name).any (Matches g)
  | .anyOne :: _, [] => false
  | .anyOne :: g, _ :: name => Matches g name
  | .literal _ :: _, [] => false
  | .literal c :: g, d :: name => Text.sameFold c d && Matches g name

def close (pieces : Array Piece) (live : Array Bool) : Array Bool :=
  (List.range pieces.size).foldl
    (fun acc i => if acc[i]! && pieces[i]! == .anyRun then acc.set! (i + 1) true else acc)
    live

def advance (pieces : Array Piece) (live : Array Bool) (d : Char) : Array Bool :=
  let next := (List.range pieces.size).foldl
    (fun acc i =>
      if !live[i]! then acc
      else match pieces[i]! with
        | .anyRun => acc.set! i true
        | .anyOne => acc.set! (i + 1) true
        | .literal c => if Text.sameFold c d then acc.set! (i + 1) true else acc)
    (Array.replicate (pieces.size + 1) false)
  close pieces next

/-- Whether an alternative matches a whole name, by the set of positions it can be at. -/
def accepts (g : Glob) (name : List Char) : Bool :=
  let pieces := g.toArray
  let start := close pieces ((Array.replicate (pieces.size + 1) false).set! 0 true)
  (name.foldl (advance pieces) start)[pieces.size]!

end Glob

namespace Regex

def metaChars : List Char :=
  ['\\', '.', '+', '*', '?', '(', ')', '|', '[', ']', '{', '}', '^', '$', '#', '&', '-', '~']

def isMeta (c : Char) : Bool := metaChars.contains c

/-- A character written to stand for itself: behind a backslash when it is a meta character. -/
def quote (c : Char) : List Char := if isMeta c then ['\\', c] else [c]

/-- The items of the expressions that patterns are compiled to. -/
inductive Item where
  /-- The character itself, compared up to case. -/
  | lit (c : Char)
  /-- `.`: any one character. -/
  | dot
  /-- `.*`: any run of characters. -/
  | dotStar
  deriving DecidableEq, Repr

def Item.source : Item → List Char
  | .lit c => quote c
  | .dot => ['.']
  | .dotStar => ['.', '*']

/-- An expression `^(?:b|…|b)$`: branches of items, each to match the whole text. -/
structure Anchored where
  branches : List (List Item)

def Anchored.source (r : Anchored) : List Char :=
  "^(?:".toList ++ ['|'].intercalate (r.branches.map (·.flatMap Item.source)) ++ ")$".toList

/-- Where an item matches in a text `v`, from position `i` to position `j`, in an expression
built case-insensitively and with `.` matching newlines: a literal matches one character that
folds as it does, `.` any one character, `.*` any run. -/
def Item.Spans (v : List Char) : Item → Nat → Nat → Prop
  | .lit c, i, j => ∃ h : i < v.length, Text.sameFold c v[i] = true ∧ j = i + 1
  | .dot, i, j => i < v.length ∧ j = i + 1
  | .dotStar, i, j => i ≤ j ∧ j ≤ v.length

/-- Items in sequence match where each matches from where the one before it ended. -/
def Spans (v : List Char) : List Item → Nat → Nat → Prop
  | [], i, j => i = j
  | it :: b, i, j => ∃ k, it.Spans v i k ∧ Spans v b k j

/-- Where `^(?:…)$` matches: `^` holds only at the start of the text and `$` only at its end. -/
def Anchored.Spans (r : Anchored) (v : List Char) (i j : Nat) : Prop :=
  i = 0 ∧ (∃ b ∈ r.branches, Regex.Spans v b i j) ∧ j = v.length

/-- What patterns take from a regular-expression library: escaping text, and building an
expression from its source, case-insensitive and with `.` matching newlines, which may fail.
A built expression tells whether it matches anywhere in a text. -/
structure Library where
  escape : String → String
  build : String → Option (String → Bool)

/-- The documented behaviour that patterns rely on: escaping puts a backslash before every meta
character and keeps the others, and every `^(?:…)$` with a branch and of at most 2006
characters, the most a pattern of 1000 characters compiles to, builds and matches where its
items do. -/
structure Library.Lawful (lib : Library) : Prop where
  escape_toList : ∀ s, (lib.escape s).toList = s.toList.flatMap quote
  build_anchored : ∀ r : Anchored, r.branches ≠ [] → r.source.length ≤ 2006 →
    ∃ m, lib.build (String.ofList r.source) = some m ∧
      ∀ v, m v = true ↔ ∃ i j, r.Spans v.toList i j

def pushItem (it : Item) : List (List Item) → List (List Item)
  | [] => [[it]]
  | b :: bs => (it :: b) :: bs

/-- Reads branches of items up to the closing `)$`, refusing every other use of a meta
character. -/
def parseBranches : List Char → Option (List (List Item))
  | [')', '$'] => some [[]]
  | '|' :: rest => (parseBranches rest).map ([] :: ·)
  | '\\' :: c :: rest => if isMeta c then (parseBranches rest).map (pushItem (.lit c)) else none
  | '.' :: '*' :: rest => (parseBranches rest).map (pushItem .dotStar)
  | '.' :: rest => (parseBranches rest).map (pushItem .dot)
  | c :: rest => if isMeta c then none else (parseBranches rest).map (pushItem (.lit c))
  | [] => none

def parse : List Char → Option Anchored
  | '^' :: '(' :: '?' :: ':' :: rest => (parseBranches rest).map .mk
  | _ => none

def Item.piece : Item → Glob.Piece
  | .lit c => .literal c
  | .dot => .anyOne
  | .dotStar => .anyRun

/-- A library that builds the expressions `^(?:…)$`, refuses every other source, and runs each
branch on the position sets of its pieces. -/
def library : Library where
  escape s := String.ofList (s.toList.flatMap quote)
  build src := (parse src.toList).map fun r name =>
    r.branches.any fun b => Glob.accepts (b.map Item.piece) name.toList

end Regex

/-- Replaces every `a` directly followed by `b` with `rep`, from the left, going on after each
replacement, so that no two replaced pairs overlap. -/
def Text.replacePair (a b : Char) (rep : List Char) : List Char → List Char
  | c :: d :: rest =>
    if c = a ∧ d = b then rep ++ replacePair a b rep rest
    else c :: replacePair a b rep (d :: rest)
  | cs => cs

namespace Pattern

def splitBars : List Char → List (List Char)
  | [] => [[]]
  | '|' :: rest => [] :: splitBars rest
  | c :: rest =>
    match splitBars rest with
    | [] => [[c]]
    | first :: others => (c :: first) :: others

def alternatives (text : String) : List (List Char) :=
  (splitBars text.toList).filter (!·.isEmpty)

end Pattern

/-- The source of the expression a pattern is compiled to: each non-empty alternative escaped,
with every `\*` and then every `\?` of it rewritten to `.*` and `.`, and the alternatives joined
by `|` within `^(?:…)$`. -/
def regexSource (escape : String → String) (pattern : String) : String :=
  let branches := (Pattern.alternatives pattern).map fun a =>
    Text.replacePair '\\' '?' ['.']
      (Text.replacePair '\\' '*' ['.', '*'] (escape (String.ofList a)).toList)
  String.ofList ("^(?:".toList ++ ['|'].intercalate branches ++ ")$".toList)

/-- Whether a name matches a pattern's text in full, by the expression a library builds from it;
never when the pattern has no non-empty alternative or the library refuses the expression. -/
def matchesPatternWith (lib : Regex.Library) (name pattern : String) : Bool :=
  if (Pattern.splitBars pattern.toList).all (·.isEmpty) then false
  else match lib.build (regexSource lib.escape pattern) with
    | some m => m name
    | none => false

def matchesPattern (name pattern : String) : Bool :=
  matchesPatternWith Regex.library name pattern

set_option maxRecDepth 20000 in
example : matchesPattern "Doctor Who" "doctor*" = true ∧ matchesPattern "abc" "|" = false ∧
    matchesPattern "a.c" "a?c|x" = true ∧ matchesPattern "ab" "a" = false ∧
    matchesPattern "A\\xyz" "a\\*" = true ∧ matchesPattern "a*" "a\\*" = false := by
  decide +kernel

end CatalogQueue
