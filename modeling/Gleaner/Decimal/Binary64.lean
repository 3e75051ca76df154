/-
  Gleaner/Decimal/Binary64.lean
  =============================
  **Binary floating-point numbers of 64 bits, exactly.**  A finite number is a
  sign, a significand below `2 ^ 53` and an exponent of two.  Every operation
  computes the exact rational result and rounds once, to the nearest number,
  a tie to the even significand.
-/

namespace Gleaner

/-- A number in binary64: `finite s m e` is `± m · 2 ^ e`.  Numbers built by
    `Binary64.ofRatio` are in normal form: `m` has 53 bits unless `e = -1074`. -/
inductive Binary64 where
  | nan
  | infinite (negative : Bool)
  | finite (negative : Bool) (significand : Nat) (exponent : Int)
deriving DecidableEq, Repr, Inhabited

namespace Binary64

def minExponent : Int := -1074

def maxExponent : Int := 971

def zero (negative : Bool) : Binary64 := .finite negative 0 minExponent

/-- `n / d` to the nearest whole number, a tie to the even one. -/
def roundDiv (n d : Nat) : Nat :=
  let q := n / d
  let r := n % d
  if 2 * r < d then q
  else if d < 2 * r then q + 1
  else if q % 2 = 0 then q else q + 1

/-- `n / d` divided by `2 ^ e`, as a quotient. -/
def scaleDown (n d : Nat) (e : Int) : Nat × Nat :=
  if 0 ≤ e then (n, d * Nat.pow 2 e.toNat) else (n * Nat.pow 2 (-e).toNat, d)

/-- The exponent at which `n / d` has a significand of 53 bits, or the smallest
    exponent. -/
def exponentFor (n d : Nat) : Int :=
  let guess : Int := (Nat.log2 n : Int) - Nat.log2 d - 52
  let (a, b) := scaleDown n d guess
  let e :=
    if Nat.pow 2 53 ≤ a / b then guess + 1
    else if a / b < Nat.pow 2 52 then guess - 1
    else guess
  max e minExponent

/-- The number nearest to `± n / d`, for `d` other than zero. -/
def ofRatio (negative : Bool) (n d : Nat) : Binary64 :=
  if n = 0 then zero negative
  else
    let e := exponentFor n d
    let (a, b) := scaleDown n d e
    let m := roundDiv a b
    let (m, e) := if m = Nat.pow 2 53 then (Nat.pow 2 52, e + 1) else (m, e)
    if maxExponent < e then .infinite negative else .finite negative m e

def ofInt (n : Int) : Binary64 := ofRatio (decide (n < 0)) n.natAbs 1

def ofDecimal (negative : Bool) (digits : Nat) (exponent : Int) : Binary64 :=
  if digits = 0 then zero negative
  else
    let size : Int := (Nat.log2 digits : Int) / 4 + exponent
    let large : Int := (Nat.log2 digits : Int) / 3 + 1 + exponent
    if 400 < size then .infinite negative
    else if large < -400 then zero negative
    else if 0 ≤ exponent then ofRatio negative (digits * Nat.pow 10 exponent.toNat) 1
    else ofRatio negative digits (Nat.pow 10 (-exponent).toNat)

def quotient (m : Nat) (e : Int) : Nat × Nat :=
  if 0 ≤ e then (m * Nat.pow 2 e.toNat, 1) else (m, Nat.pow 2 (-e).toNat)

def signed (negative : Bool) (n : Nat) : Int := if negative then -(n : Int) else n

/-! ### Order -/

def compareFinite (negative : Bool) (m : Nat) (e : Int) (k : Int) : Ordering :=
  let (n, d) := quotient m e
  compare (signed negative n) (k * d)

/-- How a number compares with a whole number; `none` for the undefined one. -/
def compareInt? : Binary64 → Int → Option Ordering
  | .nan, _ => none
  | .infinite negative, _ => some (if negative then .lt else .gt)
  | .finite s m e, k => some (compareFinite s m e k)

/-- How two numbers compare; `none` if one is undefined. -/
def compare? : Binary64 → Binary64 → Option Ordering
  | .nan, _ => none
  | _, .nan => none
  | .infinite s, .infinite t =>
      some (if s = t then .eq else if s then .lt else .gt)
  | .infinite s, .finite .. => some (if s then .lt else .gt)
  | .finite .., .infinite t => some (if t then .gt else .lt)
  | .finite s m e, .finite t n f =>
      let (a, b) := quotient m e
      let (c, d) := quotient n f
      some (compare (signed s a * d) (signed t c * b))

/-! ### Arithmetic -/

def neg : Binary64 → Binary64
  | .nan => .nan
  | .infinite s => .infinite !s
  | .finite s m e => .finite (!s) m e

/-- The sum; two zeros of different sign give the positive zero. -/
def add : Binary64 → Binary64 → Binary64
  | .nan, _ => .nan
  | _, .nan => .nan
  | .infinite s, .infinite t => if s = t then .infinite s else .nan
  | .infinite s, .finite .. => .infinite s
  | .finite .., .infinite t => .infinite t
  | .finite s m e, .finite t n f =>
      let (a, b) := quotient m e
      let (c, d) := quotient n f
      let sum := signed s a * d + signed t c * b
      if sum = 0 then zero (s && t) else ofRatio (decide (sum < 0)) sum.natAbs (b * d)

def sub (x y : Binary64) : Binary64 := add x (neg y)

def mul : Binary64 → Binary64 → Binary64
  | .nan, _ => .nan
  | _, .nan => .nan
  | .infinite s, .infinite t => .infinite (s != t)
  | .infinite s, .finite t n _ => if n = 0 then .nan else .infinite (s != t)
  | .finite s m _, .infinite t => if m = 0 then .nan else .infinite (s != t)
  | .finite s m e, .finite t n f =>
      let (a, b) := quotient m e
      let (c, d) := quotient n f
      ofRatio (s != t) (a * c) (b * d)

def isZero : Binary64 → Bool
  | .finite _ 0 _ => true
  | _ => false

example : ofDecimal false 1 (-1) = .finite false 0x1999999999999a (-56) := by decide +kernel
example : ofDecimal false 17976931348623159 292 = .infinite false := by decide +kernel
example : ofDecimal false 5 (-324) = .finite false 1 (-1074) := by decide +kernel

end Binary64

end Gleaner
