import CatalogQueue.Text.Decimal

/-!
What a plain scalar means under the YAML 1.2 core schema: null, a boolean, an integer, a float
or text.
-/

namespace CatalogQueue.Yaml

/-- The meaning of a scalar. Integers are kept with the width that first holds them. -/
inductive Resolved where
  | null
  | bool (b : Bool)
  | unsigned (n : Nat)
  | signed (i : Int)
  | wideUnsigned (n : Nat)
  | wideSigned (i : Int)
  | float (x : Binary64)
  | text
  deriving Inhabited

namespace Scalar

def isNullWord (s : String) : Bool := s == "~" || s == "null" || s == "Null" || s == "NULL"

def boolOf? (s : String) : Option Bool :=
  if s == "true" || s == "True" || s == "TRUE" then some true
  else if s == "false" || s == "False" || s == "FALSE" then some false
  else none

/-- Digits with a leading zero, after an optional sign: text, not a number. -/
def isZeroPadded (s : String) : Bool :=
  let cs := match s.toList with
    | '-' :: r => r
    | '+' :: r => r
    | r => r
  cs.length > 1 && cs.head? == some '0' && cs.tail.all Char.isDigit

def digitValue (radix : Nat) (c : Char) : Option Nat :=
  let v := if c.isDigit then some (c.toNat - '0'.toNat)
    else if 'a' ≤ c && c ≤ 'z' then some (c.toNat - 'a'.toNat + 10)
    else if 'A' ≤ c && c ≤ 'Z' then some (c.toNat - 'A'.toNat + 10)
    else none
  v.bind fun d => if d < radix then some d else none

def digitsIn (radix : Nat) (cs : List Char) : Option Nat :=
  if cs.isEmpty then none
  else cs.foldlM (fun n c => (digitValue radix c).map (n * radix + ·)) 0

/-- An integer of a fixed range read in a radix: an optional `+`, or `-` when negatives are
allowed, then digits; a sign alone is not a number. -/
def readInt (radix : Nat) (lo hi : Int) (cs : List Char) : Option Int :=
  let (negative, digits) := match cs with
    | '+' :: r => (false, r)
    | '-' :: r => if lo < 0 then (true, r) else (false, cs)
    | _ => (false, cs)
  (digitsIn radix digits).bind fun n =>
    let v : Int := if negative then -(n : Int) else n
    if lo ≤ v && v ≤ hi then some v else none

def stripPrefix (p : String) (cs : List Char) : Option (List Char) :=
  if p.toList.isPrefixOf cs then some (cs.drop p.length) else none

/-- A non-negative integer up to `hi`: one optional `+`, then `0x`, `0o`, `0b` or decimal
digits; a sign after the radix prefix, and a zero-padded decimal, are not numbers. -/
def unsignedOf? (hi : Nat) (s : String) : Option Nat :=
  let cs := s.toList
  let rest := (stripPrefix "+" cs).getD cs
  let radixed (p : String) (radix : Nat) : Option Nat :=
    (stripPrefix p rest).bind fun r =>
      if r.head? == some '+' || r.head? == some '-' then none
      else (readInt radix 0 hi r).map Int.toNat
  let signAfter (p : String) : Bool :=
    match stripPrefix p rest with
    | some r => r.head? == some '+' || r.head? == some '-'
    | none => false
  if signAfter "0x" || signAfter "0o" || signAfter "0b" then none
  else match radixed "0x" 16 with
  | some n => some n
  | none => match radixed "0o" 8 with
    | some n => some n
    | none => match radixed "0b" 2 with
      | some n => some n
      | none =>
        if rest.head? == some '+' || rest.head? == some '-' then none
        else if isZeroPadded s then none
        else (readInt 10 0 hi rest).map Int.toNat

/-- A negative-capable integer in `[lo, hi]`: `-0x`, `-0o`, `-0b` with digits, or decimal
with an optional sign; a zero-padded decimal is not a number. -/
def signedOf? (lo hi : Int) (s : String) : Option Int :=
  let cs := s.toList
  let radixed (p : String) (radix : Nat) : Option Int :=
    (stripPrefix p cs).bind fun r => readInt radix lo hi ('-' :: r)
  match radixed "-0x" 16 with
  | some i => some i
  | none => match radixed "-0o" 8 with
    | some i => some i
    | none => match radixed "-0b" 2 with
      | some i => some i
      | none => if isZeroPadded s then none else readInt 10 lo hi cs

/-- A finite float, or an infinity or NaN in the spellings `.inf`, `.Inf`, `.INF` (with an
optional sign), `.nan`, `.NaN`, `.NAN`. -/
def floatOf? (s : String) : Option Binary64 :=
  let cs := s.toList
  let unsigned? : Option (List Char) := match cs with
    | '+' :: r => if r.head? == some '+' || r.head? == some '-' then none else some r
    | _ => some cs
  unsigned?.bind fun u =>
    let us := String.ofList u
    if us == ".inf" || us == ".Inf" || us == ".INF" then some (.infinity false)
    else if s == "-.inf" || s == "-.Inf" || s == "-.INF" then some (.infinity true)
    else if s == ".nan" || s == ".NaN" || s == ".NAN" then some .nan
    else match Binary64.parse? us with
      | some x => if x.isFinite then some x else none
      | none => none

def max64 : Nat := 0xFFFFFFFFFFFFFFFF
def max128 : Nat := 0xFFFFFFFFFFFFFFFFFFFFFFFFFFFFFFFF

/-- An integer in the first of the widths unsigned 64, signed 64, unsigned 128 and signed 128
bits that holds it. -/
def intOf? (s : String) : Option Resolved :=
  match unsignedOf? max64 s with
  | some n => some (.unsigned n)
  | none => match signedOf? (-0x8000000000000000) 0x7FFFFFFFFFFFFFFF s with
    | some i => some (.signed i)
    | none => match unsignedOf? max128 s with
      | some n => some (.wideUnsigned n)
      | none => match signedOf? (-0x80000000000000000000000000000000) 0x7FFFFFFFFFFFFFFFFFFFFFFFFFFFFFFF s with
        | some i => some (.wideSigned i)
        | none => none

/-- The meaning of a plain scalar without a tag. -/
def resolve (s : String) : Resolved :=
  if s.isEmpty || isNullWord s then .null
  else match boolOf? s with
  | some b => .bool b
  | none => match intOf? s with
    | some r => r
    | none =>
      if isZeroPadded s then .text
      else match floatOf? s with
        | some x => .float x
        | none => .text

end Scalar

end CatalogQueue.Yaml
