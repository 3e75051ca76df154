/-
  Gleaner/Selector/Value.lean
  ===========================
  **Conditions on attribute values.**  A line end that ends a value does not count
  where the end of the value is looked at.
-/
import Gleaner.Selector.Basic
import Gleaner.Text.Case
import Gleaner.Text.Blank
import Gleaner.Text.Split

namespace Gleaner.Selector

def withoutLineEnd (s : List Char) : List Char :=
  if s.getLast? = some '\n' then s.dropLast else s

def isPart (t s : List Char) : Bool := (Text.cutAt? t s).isSome

def listWords (s : List Char) : List (List Char) := Text.runsBy Text.isMarkupBlank s []

/-- `t` ends `s`, or `s` without the line end that ends it. -/
def closes (t s : List Char) : Bool := t.isSuffixOf s || t.isSuffixOf (withoutLineEnd s)

/-- The value `v` stands in a relation to the text `t`. -/
def Relation.holds (t v : List Char) : Relation → Bool
  | .equal => t == v || t == withoutLineEnd v
  | .startsWith => t.isPrefixOf v
  | .endsWith => closes t v
  | .contains => isPart t v
  | .hasWord => (listWords v).contains t
  | .hasLead => t == v || t == withoutLineEnd v || (t ++ ['-']).isPrefixOf v

def ValueTest.accepts (test : ValueTest) (value : String) : Bool :=
  let v := value.toList
  if test.ignoresCase then test.relation.holds (Text.foldCase test.text) (Text.foldCase v)
  else test.relation.holds test.text v

end Gleaner.Selector
