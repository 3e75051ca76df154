/-
  Gleaner/Text/Base64.lean
  ========================
  **Base 64.**  Three bytes are written as four characters of an alphabet of
  sixty-four; what is missing of the last three is shown by equals signs.
-/
namespace Gleaner.Text

def sextetChar (n : Nat) : Char :=
  if n < 26 then Char.ofNat (65 + n)
  else if n < 52 then Char.ofNat (71 + n)
  else if n < 62 then Char.ofNat (n - 4)
  else if n = 62 then '+'
  else '/'

def base64 : List UInt8 → List Char
  | a :: b :: c :: more =>
      let n := a.toNat * 65536 + b.toNat * 256 + c.toNat
      sextetChar (n / 262144) :: sextetChar (n / 4096 % 64) :: sextetChar (n / 64 % 64)
        :: sextetChar (n % 64) :: base64 more
  | [a, b] =>
      let n := a.toNat * 1024 + b.toNat * 4
      [sextetChar (n / 4096), sextetChar (n / 64 % 64), sextetChar (n % 64), '=']
  | [a] =>
      let n := a.toNat * 16
      [sextetChar (n / 64), sextetChar (n % 64), '=', '=']
  | [] => []

end Gleaner.Text
