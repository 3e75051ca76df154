/-
  Gleaner/Json/Path/Basic.lean
  ============================
  **Paths through Json values.**  A path selects any number of places below a
  value: by member names, by positions, by a test on items, by descent to every
  depth, or by computing with what other paths select.
-/
import Gleaner.Json.Basic

namespace Gleaner.Json

inductive Arithmetic where
  | plus
  | minus
  | times
deriving DecidableEq, Repr

inductive Comparison where
  | equal
  | unequal
  | less
  | atMost
  | greater
  | atLeast
  | matching
deriving DecidableEq, Repr

mutual
inductive Path where
  /-- The outermost value. -/
  | root
  /-- The value itself. -/
  | this
  /-- The value around this one. -/
  | parent
  | fields (names : List String)
  | every
  | index (positions : List Int)
  | slice (start stop step : Option Int)
  | child (p q : Path)
  /-- `q` at the places of `p` and at every place below them. -/
  | deep (p q : Path)
  /-- The places of `p` at which `q` selects something (`wanted`), or nothing. -/
  | having (wanted : Bool) (p q : Path)
  | union (p q : Path)
  /-- The common places of two paths, which is never computed. -/
  | common (p q : Path)
  | filter (t : Test)
  | sort (keys : SortKeys)
  | count
  | names
  | label
  | shown
  /-- One part (`some i`) or all parts of a text between separators, at most
      `limit` cuts unless it is negative. -/
  | split (separator : String) (part : Option Int) (limit : Int)
  | replace (pattern : String) (by_ : String)
  | compute (op : Arithmetic) (l r : Operand)
inductive Operand where
  | path (p : Path)
  | value (v : Json)
inductive Test where
  | selects (p : Path)
  | compare (op : Comparison) (l : Path) (r : Operand)
  | both (s t : Test)
  | either (s t : Test)
  | fails (t : Test)
/-- What a list is sorted by: paths, each upwards or downwards. -/
inductive SortKeys where
  | done
  | key (p : Path) (down : Bool) (more : SortKeys)
end

instance : Inhabited Path := ⟨.this⟩

end Gleaner.Json
