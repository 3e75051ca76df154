/-
  Gleaner/Text/Digits.lean
  ========================
  **Digits and the reading of whole numbers.**  `digitValue?` knows the decimal
  digits of every script; `asciiDigit` only those of ASCII.  `parseInt?` reads a
  whole number the way a configuration value is written: blanks around it, one
  sign, and single underscores between digits are allowed.
-/
import Gleaner.Text.Blank

namespace Gleaner.Text

/-- The digits `0` of all scripts that have decimal digits; each is followed by
    the other nine. -/
def zeroDigits : List Nat :=
  [48, 1632, 1776, 1984, 2406, 2534, 2662, 2790, 2918, 3046, 3174, 3302, 3430, 3558, 3664,
   3792, 3872, 4160, 4240, 6112, 6160, 6470, 6608, 6784, 6800, 6992, 7088, 7232, 7248, 42528,
   43216, 43264, 43472, 43504, 43600, 44016, 65296, 66720, 68912, 69734, 69872, 69942, 70096,
   70384, 70736, 70864, 71248, 71360, 71472, 71904, 72016, 72784, 73040, 73120, 92768, 92864,
   93008, 120782, 120792, 120802, 120812, 120822, 123200, 123632, 125264, 130032]

def digitValue? (c : Char) : Option Nat :=
  (zeroDigits.find? fun z => z ≤ c.toNat && c.toNat < z + 10).map (c.toNat - ·)

def isDigit (c : Char) : Bool := (digitValue? c).isSome

/-- The digit of ASCII with the same value; other characters are left alone. -/
def plainDigit (c : Char) : Char :=
  match digitValue? c with
  | some d => Char.ofNat (48 + d)
  | none => c

def asciiDigit (c : Char) : Bool := '0' ≤ c && c ≤ '9'

def asciiLetter (c : Char) : Bool := ('a' ≤ c && c ≤ 'z') || ('A' ≤ c && c ≤ 'Z')

def asciiDigitValue (c : Char) : Nat := c.toNat - 48

def decimalValue (s : List Char) : Nat := s.foldl (fun n c => 10 * n + asciiDigitValue c) 0

def hexValue? (c : Char) : Option Nat :=
  if asciiDigit c then some (c.toNat - 48)
  else if 'a' ≤ c && c ≤ 'f' then some (c.toNat - 87)
  else if 'A' ≤ c && c ≤ 'F' then some (c.toNat - 55)
  else none

def isHex (c : Char) : Bool := (hexValue? c).isSome

def hexNumber (s : List Char) : Nat := s.foldl (fun n c => 16 * n + (hexValue? c).getD 0) 0

def hexDigit (n : Nat) : Char := if n < 10 then Char.ofNat (48 + n) else Char.ofNat (87 + n)

/-- `n` in hexadecimal with exactly `width` digits, the lowest ones. -/
def hexText : Nat → Nat → List Char
  | 0, _ => []
  | width + 1, n => hexText width (n / 16) ++ [hexDigit (n % 16)]

/-- The digit values of a run of digits in which single underscores may stand
    between two digits. -/
def digitRun? : List Char → Option (List Nat)
  | [] => none
  | c :: s =>
      match digitValue? c, s with
      | none, _ => none
      | some d, [] => some [d]
      | some d, '_' :: s => (digitRun? s).map (d :: ·)
      | some d, c' :: s => (digitRun? (c' :: s)).map (d :: ·)

/-- Whole numbers are read and written with at most this many digits. -/
def maxDigits : Nat := 4300

def digitLimitText (digits : Nat) : String :=
  "Exceeds the limit (4300 digits) for integer string conversion: value has "
    ++ toString digits ++ " digits; use sys.set_int_max_str_digits() to increase the limit"

def writingLimitText : String :=
  "Exceeds the limit (4300 digits) for integer string conversion; use "
    ++ "sys.set_int_max_str_digits() to increase the limit"

inductive IntProblem where
  /-- It is not written like a number. -/
  | malformed
  /-- It has more digits than `maxDigits`. -/
  | tooLong (digits : Nat)
deriving DecidableEq, Repr

def parseInt (s : List Char) : Except IntProblem Int :=
  let t := trimBy isNumberBlank s
  let (negative, body) := match t with
    | '-' :: r => (true, r)
    | '+' :: r => (false, r)
    | r => (false, r)
  match digitRun? body with
  | none => .error .malformed
  | some ds =>
      if maxDigits < ds.length then .error (.tooLong ds.length)
      else
        let n : Nat := ds.foldl (fun n d => 10 * n + d) 0
        .ok (if negative then -(n : Int) else n)

def parseInt? (s : String) : Option Int := (parseInt s.toList).toOption

end Gleaner.Text
