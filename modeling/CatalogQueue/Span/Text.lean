import CatalogQueue.Span
import CatalogQueue.Text.Blank
/-!
The text of a span: `[d.]hh:mm[:ss[.fraction]]` between optional Unicode blanks, hours below 24,
minutes and seconds below 60; writing gives `hh:mm:ss` with `d.` in front for whole days.
-/

namespace CatalogQueue

def maxDays : Nat := 10675199

/-- Runtime assumed for a video whose runtime text is not a span: five hours. -/
def unknownRuntime : Span := Span.ofSecs (5 * 60 * 60)

namespace SpanText

def digitsValue (ds : List Char) : Nat :=
  ds.foldl (fun n c => n * 10 + (c.toNat - '0'.toNat)) 0

def takeDigits (cs : List Char) : List Char × List Char :=
  (cs.takeWhile Char.isDigit, cs.dropWhile Char.isDigit)

/-- The parts of a span's text, before their ranges are checked. -/
structure Fields where
  days : Nat := 0
  hours : Nat
  minutes : Nat
  seconds : Nat := 0
  /-- The fraction of a second in nanoseconds. -/
  nanos : Nat := 0

def fractionNanos (ds : List Char) : Nat :=
  digitsValue ds * Nat.pow 10 (9 - ds.length)

def isShortRun (ds : List Char) : Bool := 1 ≤ ds.length && ds.length ≤ 2

def readSeconds : List Char → Option (Nat × Nat)
  | [] => some (0, 0)
  | ':' :: rest =>
    let (s, after) := takeDigits rest
    if !isShortRun s then none
    else match after with
      | [] => some (digitsValue s, 0)
      | '.' :: frac =>
        if 1 ≤ frac.length && frac.length ≤ 7 && frac.all Char.isDigit then
          some (digitsValue s, fractionNanos frac)
        else none
      | _ => none
  | _ => none

def readClock (days : Nat) (cs : List Char) : Option Fields :=
  let (h, afterH) := takeDigits cs
  if !isShortRun h then none
  else match afterH with
    | ':' :: rest =>
      let (m, afterM) := takeDigits rest
      if !isShortRun m then none
      else (readSeconds afterM).map fun (s, n) =>
        { days, hours := digitsValue h, minutes := digitsValue m, seconds := s, nanos := n }
    | _ => none

def readFields (cs : List Char) : Option Fields :=
  let (first, rest) := takeDigits cs
  match rest with
  | '.' :: clock => if first.isEmpty then none else readClock (digitsValue first) clock
  | _ => readClock 0 cs

def Fields.inRange (f : Fields) : Bool :=
  f.days ≤ maxDays && f.hours ≤ 23 && f.minutes ≤ 59 && f.seconds ≤ 59

def Fields.totalSecs (f : Fields) : Nat :=
  ((f.days * 24 + f.hours) * 60 + f.minutes) * 60 + f.seconds

def twoDigits (n : Nat) : String :=
  if n < 10 then "0" ++ toString n else toString n

end SpanText

namespace Span

open SpanText

def parse? (s : String) : Option Span := do
  let f ← readFields (Text.trimBlanks s.toList)
  if f.inRange then Span.ofParts? f.totalSecs f.nanos else none

/-- Writes a span as `hh:mm:ss`, with `d.` in front when it holds whole days. -/
def format (d : Span) : String :=
  let t := d.secs
  let days := t / 86400
  let clock := twoDigits (t % 86400 / 3600) ++ ":" ++ twoDigits (t % 3600 / 60) ++ ":" ++
    twoDigits (t % 60)
  if days > 0 then toString days ++ "." ++ clock else clock

/-- Reads a span written in a rule file: a blank text is the empty span. -/
def parseSetting? (s : String) : Option Span :=
  if (Text.trimBlanks s.toList).isEmpty then some zero else parse? s

end Span

example : (Span.parse? " 1.02:03:04.5 ").map Span.toNanos = some 93784500000000 := by decide

example : (Span.ofSecs 90061).format = "1.01:01:01" := by decide

end CatalogQueue
