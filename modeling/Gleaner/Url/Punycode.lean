/-
  Gleaner/Url/Punycode.lean
  =========================
  **Punycode.**  Names beyond ASCII written in ASCII.  First come the characters that
  are ASCII already; then, in ascending order of the others, how far it is from one
  insertion to the next, as a number of base 36 whose digits end by a threshold that
  follows the sizes seen so far.
-/
import Gleaner.Text.Digits

namespace Gleaner.Url.Punycode

def digit (n : Nat) : Char := if n < 26 then Char.ofNat (97 + n) else Char.ofNat (22 + n)

def threshold (place bias : Nat) : Nat :=
  if place ≤ bias then 1 else if bias + 26 ≤ place then 26 else place - bias

theorem threshold_pos (place bias : Nat) : 0 < threshold place bias := by
  unfold threshold
  split
  · omega
  · split <;> omega

/-- The digits of a distance, from a place on. -/
def digitsFrom (bias place distance : Nat) : List Char :=
  let t := threshold place bias
  if h : distance < t then [digit distance]
  else
    digit (t + (distance - t) % (36 - t))
      :: digitsFrom bias (place + 36) ((distance - t) / (36 - t))
termination_by distance
decreasing_by
  have := threshold_pos place bias
  have := Nat.div_le_self (distance - threshold place bias) (36 - threshold place bias)
  omega

/-- Divide a size until it is small: what is left, and thirty-six for each division. -/
def settle (size : Nat) : Nat × Nat :=
  if 455 < size then
    let (left, steps) := settle (size / 35)
    (left, steps + 36)
  else (size, 0)
termination_by size
decreasing_by omega

/-- The bias after a distance, when `count` characters have been written. -/
def adapt (distance count : Nat) (first : Bool) : Nat :=
  let size := if first then distance / 700 else distance / 2
  let (left, steps) := settle (size + size / count)
  steps + 36 * left / (left + 38)

structure State where
  written : Nat
  basic : Nat
  distance : Nat
  bias : Nat
  output : List Char

/-- Pass one character of the name, looking for the character `n`. -/
def step (n : Nat) (s : State) (c : Nat) : State :=
  if c < n then { s with distance := s.distance + 1 }
  else if c = n then
    { s with
      output := s.output ++ digitsFrom s.bias 36 s.distance
      bias := adapt s.distance (s.written + 1) (s.written == s.basic)
      distance := 0
      written := s.written + 1 }
  else s

/-- Write all occurrences of the characters in a list, which ascends from `n`. -/
def insertAll (name : List Nat) : Nat → List Nat → State → State
  | _, [], s => s
  | n, m :: more, s =>
      let s := { s with distance := s.distance + (m - n) * (s.written + 1) }
      let s := name.foldl (step m) s
      insertAll name (m + 1) more { s with distance := s.distance + 1 }

/-- A name in ASCII. -/
def encode (name : List Char) : List Char :=
  let basic := name.filter fun c => decide (c.toNat < 128)
  let codes := name.map Char.toNat
  let others := (codes.filter (128 ≤ ·)).mergeSort.eraseDups
  let s := insertAll codes 128 others ⟨basic.length, basic.length, 0, 72, []⟩
  (if basic.isEmpty then [] else basic ++ ['-']) ++ s.output

end Gleaner.Url.Punycode
