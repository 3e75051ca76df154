/-
  Gleaner/Json/Basic.lean
  =======================
  **Json values.**  Whole numbers and numbers with a point are kept apart, and
  the members of an object keep the order in which they were written: a name
  written twice has the place of the first and the value of the last.
-/
import Gleaner.Decimal.Binary64

namespace Gleaner

inductive Json where
  | null
  | bool (b : Bool)
  | int (n : Int)
  | real (x : Binary64)
  | str (s : String)
  | arr (items : List Json)
  | obj (members : List (String × Json))
deriving Repr, Inhabited

namespace Json

abbrev Members := List (String × Json)

def find? (name : String) : Members → Option Json
  | [] => none
  | (k, v) :: ms => if k = name then some v else find? name ms

/-- Give a member a value: in its place if it is there, at the end if not. -/
def put (name : String) (value : Json) : Members → Members
  | [] => [(name, value)]
  | (k, v) :: ms => if k = name then (k, value) :: ms else (k, v) :: put name value ms

/-- A member that was put is found; the others are found as before. -/
theorem find?_put (name other : String) (value : Json) (ms : Members) :
    find? other (put name value ms) = if other = name then some value else find? other ms := by
  induction ms with
  | nil =>
    by_cases h : other = name
    · simp [put, find?, h]
    · have h' : name ≠ other := fun e => h e.symm
      simp [put, find?, h, h']
  | cons m ms ih =>
    obtain ⟨k, v⟩ := m
    by_cases hk : k = name <;> by_cases ho : k = other
    · subst hk; subst ho; simp [put, find?]
    · subst hk
      have h' : other ≠ k := fun e => ho e.symm
      simp [put, find?, ho, h']
    · subst ho; simp [put, find?, hk]
    · simp [put, find?, hk, ho, ih]

def member? (v : Json) (name : String) : Option Json :=
  match v with
  | .obj ms => find? name ms
  | _ => none

def items? : Json → Option (List Json)
  | .arr items => some items
  | _ => none

def isNull : Json → Bool
  | .null => true
  | _ => false

/-! ### Equality

Two values are the same when they are written the same, and the order of the
members of an object does not count.  Whole numbers and numbers with a point are
the same when they are equal as numbers. -/

/-- A truth value or number as a number, `true` as one. -/
def sameNumber : Json → Json → Option Bool
  | .int m, .int n => some (m == n)
  | .int m, .real y => some (y.compareInt? m == some .eq)
  | .real x, .int n => some (x.compareInt? n == some .eq)
  | .real x, .real y => some (x.compare? y == some .eq)
  | _, _ => none

mutual
def same : Json → Json → Bool
  | .null, .null => true
  | .bool a, .bool b => a == b
  | .str s, .str t => s == t
  | .arr xs, .arr ys => sameItems xs ys
  | .obj ms, .obj ns => ms.length == ns.length && sameMembers ms ns
  | v, w => (sameNumber v w).getD false
def sameItems : List Json → List Json → Bool
  | [], [] => true
  | x :: xs, y :: ys => same x y && sameItems xs ys
  | _, _ => false
def sameMembers : List (String × Json) → List (String × Json) → Bool
  | [], _ => true
  | (k, v) :: ms, ns =>
      (match find? k ns with
        | some w => same v w
        | none => false) && sameMembers ms ns
end

end Json

end Gleaner
