/-
  Gleaner/Decimal/Shortest.lean
  =============================
  **The shortest decimal text that reads back.**  For one, two, … seventeen
  digits the two points of that decimal grid around the value are tested; the
  first grid with a point that rounds to the value wins, and of two such points
  the nearer one.  How digits and exponent become text is said in `positional`
  and `scientific`; the texts of the values that are no numbers belong to the
  place where they are written (`SpecialTexts`).
-/
import Gleaner.Decimal.Binary64

namespace Gleaner.Binary64

structure SpecialTexts where
  undefined : String
  infinity : String
  minusInfinity : String

def dataTexts : SpecialTexts := ⟨"NaN", "Infinity", "-Infinity"⟩

def shownTexts : SpecialTexts := ⟨"nan", "inf", "-inf"⟩

def digitsOf (n : Nat) : List Char := Nat.toDigits 10 n

/-- The exponent `p` with `10 ^ p ≤ n / d < 10 ^ (p + 1)`, for `n / d` at least
    `10 ^ (-400)`. -/
def decimalExponent (n d : Nat) : Int :=
  ((digitsOf (n * Nat.pow 10 400 / d)).length : Int) - 401

/-- The point of the grid of multiples of `10 ^ k` nearest to `n / d` among those
    strictly between `lo / d` and `hi / d`, the ends included if `closed`. -/
def gridPoint? (lo n hi d : Nat) (closed : Bool) (k : Int) : Option Nat :=
  let up := if k < 0 then Nat.pow 10 (-k).toNat else 1
  let unit := if k < 0 then d else d * Nat.pow 10 k.toNat
  let (lo, n, hi) := (lo * up, n * up, hi * up)
  let below := n / unit
  let above := below + 1
  let inside (x : Nat) : Bool :=
    if closed then lo ≤ x * unit && x * unit ≤ hi else lo < x * unit && x * unit < hi
  match inside below && 0 < below, inside above with
  | false, false => none
  | true, false => some below
  | false, true => some above
  | true, true =>
      let down := n - below * unit
      let rise := above * unit - n
      some (if down < rise then below else if rise < down then above
        else if below % 2 = 0 then below else above)

/-- Try grids of `count`, `count + 1`, … digits below the exponent `p`. -/
def searchGrid (lo n hi d : Nat) (closed : Bool) (p : Int) : Nat → Nat → Nat × Int
  | 0, _ => (n / d, 0)
  | fuel + 1, count =>
      let k := p + 1 - count
      match gridPoint? lo n hi d closed k with
      | some x => (x, k)
      | none => searchGrid lo n hi d closed p fuel (count + 1)

/-- The shortest digits `x` and exponent `k` such that `x · 10 ^ k` rounds to
    `m · 2 ^ e`, for `m` other than zero. -/
def shortest (m : Nat) (e : Int) : Nat × Int :=
  let closed := m % 2 == 0
  let low := if m = Nat.pow 2 52 ∧ minExponent < e then 4 * m - 1 else 4 * m - 2
  let (unit, d) := quotient 1 (e - 2)
  let (lo, n, hi) := (low * unit, 4 * m * unit, (4 * m + 2) * unit)
  searchGrid lo n hi d closed (decimalExponent n d) 17 1

def dropZeros (ds : List Char) : List Char :=
  ((ds.reverse).dropWhile (· == '0')).reverse

/-- `0.ddd`, `ddd.ddd` or `ddd000.0`: the point stands after `p + 1` digits. -/
def positional (ds : List Char) (p : Int) : List Char :=
  if p < 0 then '0' :: '.' :: (List.replicate (-p - 1).toNat '0' ++ ds)
  else
    let whole := p.toNat + 1
    let tail := ds.drop whole
    ds.take whole ++ List.replicate (whole - ds.length) '0' ++ '.'
      :: (if tail.isEmpty then ['0'] else tail)

/-- `d.ddde+XX`: the exponent has a sign and at least two digits. -/
def scientific (ds : List Char) (p : Int) : List Char :=
  let tail := ds.drop 1
  let size := digitsOf p.natAbs
  ds.take 1 ++ (if tail.isEmpty then [] else '.' :: tail) ++ 'e' :: (if p < 0 then '-' else '+')
    :: (if size.length < 2 then '0' :: size else size)

/-- The text of a positive finite number: positional when the exponent of ten
    lies between -4 and 15. -/
def magnitudeText (m : Nat) (e : Int) : List Char :=
  if m = 0 then ['0', '.', '0']
  else
    let (x, k) := shortest m e
    let all := digitsOf x
    let p : Int := k + all.length - 1
    let ds := dropZeros all
    if -4 ≤ p ∧ p < 16 then positional ds p else scientific ds p

def text (texts : SpecialTexts) : Binary64 → String
  | .nan => texts.undefined
  | .infinite negative => if negative then texts.minusInfinity else texts.infinity
  | .finite negative m e =>
      String.ofList ((if negative then ['-'] else []) ++ magnitudeText m e)

/-- A number with one digit after the point, a tie to the even digit. -/
def oneDecimal : Binary64 → String
  | .nan => "nan"
  | .infinite negative => if negative then "-inf" else "inf"
  | .finite negative m e =>
      let (n, d) := quotient m e
      let tenths := roundDiv (10 * n) d
      (if negative then "-" else "") ++ toString (tenths / 10) ++ "." ++ toString (tenths % 10)

end Gleaner.Binary64
