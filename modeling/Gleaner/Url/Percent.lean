/-
  Gleaner/Url/Percent.lean
  ========================
  **Percent encoding.**  A character that may not stand for itself is written as
  the bytes of its UTF-8 form, each as `%` and two capital hexadecimal digits.
-/
import Gleaner.Text.Utf8

namespace Gleaner.Url

def isUnreserved (c : Char) : Bool :=
  Text.asciiLetter c || Text.asciiDigit c || c == '_' || c == '.' || c == '-' || c == '~'

def capitalHex (n : Nat) : Char := if n < 10 then Char.ofNat (48 + n) else Char.ofNat (55 + n)

def percentByte (b : UInt8) : List Char :=
  ['%', capitalHex (b.toNat / 16), capitalHex (b.toNat % 16)]

def percentChar (c : Char) : List Char := (String.utf8EncodeChar c).flatMap percentByte

/-- A text in which every character that `safe` does not admit is encoded. -/
def percentEncode (safe : Char → Bool) (s : List Char) : List Char :=
  s.flatMap fun c => if safe c then [c] else percentChar c

/-- A text in which every character that `safe` does not admit is encoded, but
    bytes that are encoded already stay as they are. -/
def percentEncodeOnce (safe : Char → Bool) : List Char → List Char
  | '%' :: a :: b :: s =>
      if Text.isHex a && Text.isHex b then '%' :: a :: b :: percentEncodeOnce safe s
      else (if safe '%' then ['%'] else percentChar '%') ++ percentEncodeOnce safe (a :: b :: s)
  | c :: s => (if safe c then [c] else percentChar c) ++ percentEncodeOnce safe s
  | [] => []

def percentDecode : List Char → List UInt8
  | '%' :: a :: b :: s =>
      if Text.isHex a && Text.isHex b then UInt8.ofNat (Text.hexNumber [a, b]) :: percentDecode s
      else 37 :: percentDecode (a :: b :: s)
  | c :: s => String.utf8EncodeChar c ++ percentDecode s
  | [] => []

end Gleaner.Url
