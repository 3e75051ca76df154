/-
  Gleaner/Decimal/Read.lean
  =========================
  **Reading numbers with a point or an exponent.**  `ofParts` is the number that
  a sign, whole digits, fraction digits and an exponent write; `parseReal?`
  reads one as a configuration value is written, with blanks around it,
  underscores between digits, and words for infinity and the undefined number.
-/
import Gleaner.Decimal.Binary64
import Gleaner.Text.Digits
import Gleaner.Text.Case

namespace Gleaner.Binary64

/-- Exponents beyond this size give zero or infinity whatever the digits. -/
def exponentBound : Nat := 100000000

/-- The number written as `± whole.fraction e exponent`, digits as text. -/
def ofParts (negative : Bool) (whole fraction : List Char) (exponentNegative : Bool)
    (exponent : List Char) : Binary64 :=
  let size := min (Text.decimalValue exponent) exponentBound
  let e : Int := signed exponentNegative size
  ofDecimal negative (Text.decimalValue (whole ++ fraction)) (e - fraction.length)

/-- A run of digits of any script with single underscores between them, as ASCII
    digits, and what follows it. -/
def spanDigits : List Char → List Char × List Char
  | [] => ([], [])
  | c :: s =>
      match Text.digitValue? c with
      | none => ([], c :: s)
      | some d =>
          match s with
          | '_' :: c' :: s' =>
              if (Text.digitValue? c').isSome then
                let (ds, rest) := spanDigits (c' :: s')
                (Char.ofNat (48 + d) :: ds, rest)
              else ([Char.ofNat (48 + d)], s)
          | s =>
              let (ds, rest) := spanDigits s
              (Char.ofNat (48 + d) :: ds, rest)

/-- The exponent at the end of a number: none, or `e`, a sign and digits. -/
def parseExponent? : List Char → Option (Bool × List Char)
  | [] => some (false, [])
  | c :: s =>
      if c = 'e' ∨ c = 'E' then
        let (negative, t) := match s with
          | '-' :: r => (true, r)
          | '+' :: r => (false, r)
          | r => (false, r)
        match spanDigits t with
        | ([], _) => none
        | (ds, []) => some (negative, ds)
        | _ => none
      else none

def parseMagnitude? (negative : Bool) (s : List Char) : Option Binary64 :=
  let word := String.ofList (Text.asciiLowerChars s)
  if word = "inf" ∨ word = "infinity" then some (.infinite negative)
  else if word = "nan" then some .nan
  else
    let (whole, rest) := spanDigits s
    let (fraction, rest) := match rest with
      | '.' :: r => spanDigits r
      | r => ([], r)
    if whole.isEmpty && fraction.isEmpty then none
    else (parseExponent? rest).map fun (en, e) => ofParts negative whole fraction en e

def parseReal? (s : String) : Option Binary64 :=
  match Text.trimBy Text.isNumberBlank s.toList with
  | '-' :: r => parseMagnitude? true r
  | '+' :: r => parseMagnitude? false r
  | r => parseMagnitude? false r

end Gleaner.Binary64
