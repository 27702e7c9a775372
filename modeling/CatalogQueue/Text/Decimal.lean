/-!
Binary64 numbers as exact integers: reading decimal text to the nearest binary64 value, a tie
to the even one, and writing a value with the fewest decimal digits that read back to it.
-/

namespace CatalogQueue

/-- A binary64 number: a finite value `± sig × 2 ^ exp`, an infinity, or not a number. -/
inductive Binary64 where
  | finite (negative : Bool) (sig : Nat) (exp : Int)
  | infinity (negative : Bool)
  | nan
  deriving Inhabited, Repr

namespace Binary64

def ltPow2 (num den : Nat) (l : Int) : Bool :=
  if 0 ≤ l then num < den <<< l.toNat else num <<< (-l).toNat < den

def floorLog2 (num den : Nat) : Int :=
  let l : Int := (num.log2 : Int) - den.log2
  if ltPow2 num den l then l - 1 else l

/-- `num / (den × 2 ^ e)` rounded to the nearest integer, a tie to the even one. -/
def roundScaled (num den : Nat) (e : Int) : Nat :=
  let n := if 0 ≤ e then num else num <<< (-e).toNat
  let d := if 0 ≤ e then den <<< e.toNat else den
  let q := n / d
  let r := n % d
  if 2 * r > d || (2 * r == d && q % 2 == 1) then q + 1 else q

def decimalLength (n : Nat) : Nat := (toString n).length

/-- The binary64 value nearest to `± m × 10 ^ e10`. -/
def ofDecimal (negative : Bool) (m : Nat) (e10 : Int) : Binary64 :=
  if m == 0 then .finite negative 0 0
  else if (decimalLength m : Int) + e10 > 310 then .infinity negative
  else if (decimalLength m : Int) + e10 < -330 then .finite negative 0 0
  else
    let num := if 0 ≤ e10 then m * Nat.pow 10 e10.toNat else m
    let den := if 0 ≤ e10 then 1 else Nat.pow 10 (-e10).toNat
    let e := max (floorLog2 num den - 52) (-1074)
    let sig := roundScaled num den e
    let (sig, e) := if sig == Nat.pow 2 53 then (Nat.pow 2 52, e + 1) else (sig, e)
    if e > 971 then .infinity negative else .finite negative sig e

def digitsValue (ds : List Char) : Nat := ds.foldl (fun n c => n * 10 + (c.toNat - 48)) 0

def spanDigits (cs : List Char) : List Char × List Char := (cs.takeWhile Char.isDigit, cs.dropWhile Char.isDigit)

/-- Read the part after the sign: `inf`, `infinity` or `nan` in any case, or digits with an
optional point and an optional exponent, with at least one digit before the exponent. -/
def parseUnsigned (negative : Bool) (cs : List Char) : Option Binary64 :=
  let lower := String.ofList (cs.map Char.toLower)
  if lower == "inf" || lower == "infinity" then some (.infinity negative)
  else if lower == "nan" then some .nan
  else
    let (whole, rest) := spanDigits cs
    let (fraction, rest) := match rest with
      | '.' :: r => spanDigits r
      | _ => ([], rest)
    if whole.isEmpty && fraction.isEmpty then none
    else
      let exponent : Option Int := match rest with
        | [] => some 0
        | e :: r =>
          if e == 'e' || e == 'E' then
            let (neg, r) := match r with
              | '-' :: r => (true, r)
              | '+' :: r => (false, r)
              | _ => (false, r)
            let (ds, r) := spanDigits r
            if ds.isEmpty || !r.isEmpty then none
            else some (if neg then -(digitsValue ds : Int) else digitsValue ds)
          else none
      exponent.map fun x =>
        ofDecimal negative (digitsValue (whole ++ fraction)) (x - fraction.length)

/-- Read decimal text as a binary64 value: an optional sign, then `inf`, `infinity`, `nan`
(in any case) or a decimal number such as `1`, `1.`, `.5`, `2.5e-3`. -/
def parse? (s : String) : Option Binary64 :=
  match s.toList with
  | '-' :: cs => parseUnsigned true cs
  | '+' :: cs => parseUnsigned false cs
  | cs => parseUnsigned false cs

def isFinite : Binary64 → Bool
  | .finite .. => true
  | _ => false

/-! ### Fewest digits -/

def compareScaled (c : Nat) (k : Int) (x : Nat) (b : Int) : Ordering :=
  let lhs := c * Nat.pow 10 (max k 0).toNat * Nat.pow 2 (max (-b) 0).toNat
  let rhs := x * Nat.pow 10 (max (-k) 0).toNat * Nat.pow 2 (max b 0).toNat
  compare lhs rhs

def floorScaled (x : Nat) (b k : Int) : Nat :=
  (x * Nat.pow 2 (max b 0).toNat * Nat.pow 10 (max (-k) 0).toNat) /
    (Nat.pow 2 (max (-b) 0).toNat * Nat.pow 10 (max k 0).toNat)

def floorLog10 (x : Nat) (b : Int) : Int :=
  let num := x * Nat.pow 2 (max b 0).toNat
  let den := Nat.pow 2 (max (-b) 0).toNat
  let l : Int := (decimalLength num : Int) - decimalLength den
  let below :=
    if 0 ≤ l then num < den * Nat.pow 10 l.toNat else num * Nat.pow 10 (-l).toNat < den
  if below then l - 1 else l

/-- The shortest decimal `c × 10 ^ k` that reads back as the positive value `sig × 2 ^ exp`. -/
def shortest (sig : Nat) (exp : Int) : Nat × Int :=
  -- Work in units of 2 ^ (exp - 2): the value is 4 sig, the interval ends are 4 sig ± 2,
  -- or 4 sig - 1 below a power of two whose lower neighbour is closer.
  let b := exp - 2
  let v := 4 * sig
  let hi := v + 2
  let lo := if sig == Nat.pow 2 52 && exp > -1074 then v - 1 else v - 2
  let closed := sig % 2 == 0
  let inside (c : Nat) (k : Int) : Bool :=
    let aboveLo := match compareScaled c k lo b with
      | .gt => true | .eq => closed | .lt => false
    let belowHi := match compareScaled c k hi b with
      | .lt => true | .eq => closed | .gt => false
    aboveLo && belowHi
  let top := floorLog10 v b
  let pick (n : Nat) : Option (Nat × Int) :=
    let k := top - n + 1
    let c0 := floorScaled v b k
    let c1 := c0 + 1
    match inside c0 k, inside c1 k with
    | true, true =>
      -- the nearer of the two; `c0 ≤ value < c1` on this grid
      let d0 := v * Nat.pow 10 (max (-k) 0).toNat * Nat.pow 2 (max b 0).toNat -
        c0 * Nat.pow 10 (max k 0).toNat * Nat.pow 2 (max (-b) 0).toNat
      let d1 := c1 * Nat.pow 10 (max k 0).toNat * Nat.pow 2 (max (-b) 0).toNat -
        v * Nat.pow 10 (max (-k) 0).toNat * Nat.pow 2 (max b 0).toNat
      if d0 < d1 || (d0 == d1 && c0 % 2 == 0) then some (c0, k) else some (c1, k)
    | true, false => some (c0, k)
    | false, true => some (c1, k)
    | false, false => none
  ((List.range 17).findSome? fun i => pick (i + 1)).getD (sig, exp)

def trimZeros (c : Nat) (k : Int) : Nat × Int :=
  let ds := (toString c).toList
  let zeros := (ds.reverse.takeWhile (· == '0')).length
  if c == 0 then (0, 0) else (c / Nat.pow 10 zeros, k + zeros)

def positional (ds : String) (k : Int) : String :=
  if 0 ≤ k then ds ++ String.ofList (List.replicate k.toNat '0')
  else
    let point := (ds.length : Int) + k
    if 0 < point then
      String.ofList (ds.toList.take point.toNat) ++ "." ++ String.ofList (ds.toList.drop point.toNat)
    else "0." ++ String.ofList (List.replicate (-point).toNat '0') ++ ds

/-- The value written with the fewest digits that read back, never with an exponent:
`2.5`, `1000`, `0.001`, `-0`, `inf`, `NaN`. -/
def render : Binary64 → String
  | .nan => "NaN"
  | .infinity negative => if negative then "-inf" else "inf"
  | .finite negative sig exp =>
    let sign := if negative then "-" else ""
    if sig == 0 then sign ++ "0"
    else
      let (c, k) := shortest sig exp
      let (c, k) := trimZeros c k
      sign ++ positional (toString c) k

/-- `render`, with `.0` added to a finite value written without a point: `2.5`, `1000.0`. -/
def renderWithPoint (x : Binary64) : String :=
  let s := x.render
  if x.isFinite && !s.contains '.' then s ++ ".0" else s

example : (parse? "2.5").map render = some "2.5" := by decide +kernel
example : (parse? "0.1").map render = some "0.1" := by decide +kernel

end Binary64

end CatalogQueue
