/-
  Gleaner/Text/Direction.lean
  ===========================
  **The direction of letters.**  Some characters run from left to right and some from
  right to left; the others take the direction of their neighbours.  Both sets are
  given as runs: the distance from the end of the run before, and how much longer
  than one character the run is, in hexadecimal.
-/
import Gleaner.Text.Digits

namespace Gleaner.Text

def leftwardTable : List String :=
  ["5be+0 2+0 3+0 3+0 a+1a 5+5 14+0 3+0 2+0 e+2f 23+2 2+64 10+1 8+1 b+13 2+1 2+1d 1e+58 c+0 f+2a",
   "a+1 5+0 4+17 5+0 a+0 4+0 8+e 2+18 6+0 2+a 6+1e 12+29 1746+0 db0e+0 2+9 2+c 2+4 2+0 2+1 2+1",
   "2+7c 11+16a 13+3f 3+35 29+c 74+4 2+86 904+5 3+0 2+2b 2+1 4+0 3+16 2+47 9+8 31+12 2+1 6+20 5+19",
   "6+0 41+37 5+13 3+2e 10+3 2+2 2+1c b+8 8+8 8+3f 21+24 7+b a+35 b+15 3+1a 6+19 8+3 d+6 51+48",
   "38+32 e+32 8+29 15d+29 4+0 3+1 4f+27 9+15 c+8 17+11 5+3 27+1b 15+16 d80a+c4 3+8 31+43 8+0 5+9",
   "5+1 312+43 4d+3c c3+3 2+1a 2+1 2+0 3+0 2+9 2+3 2+0 2+0 7+0 5+0 2+0 2+0 2+2 2+1 2+0 3+0 2+0 2+0",
   "2+0 2+0 2+1 2+0 3+3 2+6 2+3 2+3 2+0 2+9 2+10 6+2 2+4 2+10"]

def rightwardTable : List String :=
  ["41+19 7+19 30+0 b+0 5+0 6+16 2+1e 2+1c0 3+6 f+1 f+4 a+0 82+3 3+1 3+3 2+0 7+0 2+2 2+0 2+13 2+52",
   "2+8b 8+a5 2+25 3+30 37a+36 2+0 2+3 9+3 2+2 8+9 3+1c 2+1 2+7 3+1 3+15 2+6 2+0 4+3 4+3 7+1 3+1",
   "2+0 9+0 5+1 2+2 5+b 3+6 2+1 6+0 2+5 5+1 3+15 2+6 2+1 2+1 2+1 5+2 19+3 2+0 8+9 3+2 2+0 d+0 2+8",
   "2+2 2+15 2+6 2+1 2+4 4+3 9+0 2+1 4+0 10+1 5+a 9+0 9+1 2+7 3+1 3+15 2+6 2+1 2+4 4+1 2+0 7+1 3+1",
   "b+0 5+1 2+2 5+11 c+0 2+5 4+2 2+3 4+1 2+0 2+1 4+1 4+2 4+b 5+1 2+1 4+2 2+2 4+0 7+0 f+c f+2 2+7",
   "2+2 2+16 2+f 4+0 4+3 14+2 3+0 3+1 5+9 8+0 8+1 2+a 2+2 2+16 2+9 2+4 4+7 2+2 2+1 a+1 7+1 2+1 5+9",
   "2+1 10+a 2+2 2+28 3+3 6+2 2+2 2+1 5+d 5+19 3+1 2+11 4+17 2+8 2+0 3+6 9+2 7+7 7+9 3+2 d+2f 2+1",
   "d+6 9+c 26+1 2+0 2+4 2+17 2+0 2+9 2+1 a+0 3+4 2+0 a+9 3+3 21+17 3+1a 2+0 2+0 6+9 2+23 13+0 6+0",
   "3+4 32+7 2+5 2+c 26+2c 5+0 7+0 3+1 3+18 3+3 4+f 5+c 2+1 3+5 2+e 2+27 2+0 6+0 3+178 2+3 3+6 2+0",
   "2+3 3+28 2+3 3+20 2+3 3+6 2+0 2+3 3+e 2+38 2+3 3+42 6+1c 4+f 11+55 3+5 4+27e 2+19 6+58 8+11",
   "4+0 a+12 3+2 a+11 f+c 2+2 10+33 3+0 8+7 2+1 c+6 2+0 4+9 27+9 7+58 8+4 3+21 2+0 6+45 b+1e 5+3",
   "3+2 5+1 2+5 e+27 3+4 c+2b 5+19 7+a 26+16 3+1 4+37 2+0 a+0 2+1 9+5 e+9 7+9 7+d 57+2f 2+0 6+0",
   "2+4 2+9 4+1a a+a 4+1f 5+1 3+0 4+37 2+0 3+2 2+0 4+1 9+2f 9+1 6+e 4+3b 8+2a 3+a c+0 e+0 8+3 2+5",
   "2+2 3+0 6+bf 41+115 3+5 3+25 3+5 3+7 2+0 2+0 2+0 2+1e 3+34 2+6 2+0 4+2 2+6 4+3 3+5 5+c 6+2 2+6",
   "12+0 63+0 e+0 11+c 66+0 5+0 3+9 2+0 4+4 7+0 2+0 2+0 2+3 2+a 3+3 6+4 5+1 11+28 1ae+44 1b+0",
   "107+4d 1c3+0 154+ff 301+e4 7+3 4+1 d+25 2+0 6+0 3+37 8+1 10+16 a+6 2+6 2+6 2+6 2+6 2+6 2+6 2+6",
   "227+2 1a+8 5+1 2+4 3+4 5+55 7+2 2+59 2+3 6+2a 2+5d 2+2f 31+2c 4+2f 11+1b 4+31 10+b 5+a6 5+62",
   "3+1e 2+19bf 41+568c 44+13c 4+1b 15+2e 12+1d 3+4f 3+5 2b+65 2+41 6+1 2+0 2+4 19+f 2+2 2+3 2+18",
   "3+0 9+7 9+33 d+43 b+b 19+c 2+25 9+18 c+1 c+1d 7+2f 2+1 5+1 3+f 2+a 5+6 2+18 2+28 7+1 3+1 c+2",
   "2+7 2+0 3+9 3+1f 2+32 2+0 4+1 3+4 3+0 2+0 19+10 3+7 c+5 3+5 3+5 a+6 2+6 2+39 7+74 2+1 2+3 4+9",
   "7+2ba3 d+16 5+30 5+226d 3+69 27+6 d+4 40a+19 7+19 c+58 4+5 3+5 3+5 3+2 24+b 2+19 2+12 2+1 2+e",
   "3+d 23+7a 6+0 2+0 5+2c 4+8 4e+1 42+2c 84+1c 4+30 30+23 a+1d 6+25 b+1d 2+24 5+d 2b+9d 3+9 7+23",
   "5+23 5+27 9+33 c+b 2+e 2+6 2+1 2+a 2+e 2+6 2+1 44+136 a+15 b+7 19+5 2+29 2+8 846+0 2+35 10+6",
   "19+9 2+1 3+0 d+30 5+1 3+6 c+0 3+18 8+9 a+23 6+0 a+11 9+22 2+2 c+33 a+9 5+1 2+f 2+13 c+11 2+1b",
   "4+1 2+0 3+5 43+6 2+0 2+3 2+e 2+a 7+2e 2+2 e+9 9+1 2+7 3+1 3+15 2+6 2+1 2+4 4+2 2+3 3+1 3+2 3+0",
   "7+0 6+6 9d+37 9+1 4+0 2+14 2+0 2+2 1f+32 7+0 2+3 3+0 3+3 9+9 a7+31 7+3 3+0 3+1a 25+32 9+1 2+0",
   "3+3 c+9 27+2a 2+0 2+1 7+0 2+1 7+9 37+1a 6+1 5+0 a+16 ba+2e a+0 3+0 65+52 d+7 3+0 3+7 2+1 2+1d",
   "2+1 5+0 2+3 2+2 a+9 47+7 3+29 9+3 2+3 1c+0 7+1 3+27 7+1 5+7 a+0 7+1 4+2d e+0 3+8 e+48 108+8",
   "2+25 f+7 b+1c 4+1f 1a+0 8+0 3+0 4c+6 2+1 2+25 16+0 a+9 7+5 2+1 2+24 5+1 2+0 2+0 8+9 137+12 3+3",
   "b8+0 10+14 2b+39a 67+6e 2+4 c+c3 a4d+62 e+42e 2+8 fc8+246 21ba+238 8+1e 2+9 5+50 2+9 7+1d 8+0",
   "b+2f 8+e b+9 2+6 2+14 6+12 2b1+5a 66+4a 6+37 c+c 41+1 2+0 d+1 f+17f7 9+4d5 2b+8 22e8+3 2+6 2+1",
   "2+122 2e+2 12+3 9+18b 905+6a 6+c 4+8 8+9 3+0 3+0 12b1+73 3d+f5 b+26 3+3d 4+8 11+1 8+1d 5+3a",
   "f8+13 6d+18 88+54 2+46 2+1 3+0 3+1 3+3 2+b 2+0 2+6 2+40 2+3 3+7 2+6 2+1b 2+3 2+4 2+0 4+6 2+153",
   "3+32 2+38 2+38 2+38 2+38 2+7 35+1ff 38+3 33+7 2+d 2+6 475+1e 1e2+2c b+6 3+9 5+1 141+1d 13+2b",
   "5+9 4e7+6 2+3 2+1 2+e 912+1e 2+39 7+3c 3a+1c e+2b 5+8 8+1 daf+a6df 21+1038 8+dd 3+1681 f+1d30",
   "c20+21d 5e3+134a becb6+fffd 3+fffd"]

/-- The runs of a table as pairs of first and last code points; `last` is the end of
    the run before. -/
def runsOfTable (last : Nat) : List String → List (Nat × Nat)
  | [] => []
  | entry :: more =>
      let (gap, extra) := entry.toList.span (· ≠ '+')
      let first := last + hexNumber gap
      let final := first + hexNumber (extra.drop 1)
      (first, final) :: runsOfTable final more

def leftwardRuns : List (Nat × Nat) := runsOfTable 0 (leftwardTable.flatMap words)

def rightwardRuns : List (Nat × Nat) := runsOfTable 0 (rightwardTable.flatMap words)

/-- The character runs from right to left (`some true`), from left to right
    (`some false`), or either way. -/
def runsLeftward? (c : Char) : Option Bool :=
  let within (runs : List (Nat × Nat)) : Bool :=
    runs.any fun (first, last) => first ≤ c.toNat && c.toNat ≤ last
  if within leftwardRuns then some true else if within rightwardRuns then some false else none

end Gleaner.Text
