/-
  Gleaner/Source/Labels.lean
  ==========================
  **Labels of a source.**  The group text of a source is a list of labels between
  commas.  Labels are trimmed and blank ones do not count; adding and removing
  keep the order of those that stay.
-/
import Gleaner.Source.Basic
import Gleaner.Text.Split

namespace Gleaner

def labelsOf (text : Option String) : List String :=
  ((Text.splitChar ',' (text.getD "").toList).map fun p => String.ofList (Text.trimChars p)).filter
    (· ≠ "")

/-- The list without repeats after the first occurrence; `seen` is already there. -/
def firstOccurrences (seen : List String) : List String → List String
  | [] => []
  | x :: xs => if x ∈ seen then firstOccurrences seen xs else x :: firstOccurrences (x :: seen) xs

namespace Source

def labels (s : Source) : List String := labelsOf s.group

def displayName (s : Source) : String :=
  match s.group with
  | none => s.name
  | some g => if g = "" then s.name else s.name ++ " (" ++ g ++ ")"

def hasLabel (s : Source) (label : String) : Bool := s.labels.contains label

def addLabels (s : Source) (text : String) : Source :=
  { s with
    group := some (",".intercalate (firstOccurrences [] (s.labels ++ labelsOf (some text)))) }

/-- The source with labels taken away; `none` if its group text is empty, so that
    there is nothing to take away. -/
def removeLabels? (s : Source) (text : String) : Option Source :=
  if (s.group.getD "") = "" then none
  else
    let gone := labelsOf (some text)
    some { s with group := some (",".intercalate (s.labels.filter fun g => !gone.contains g)) }

def removeLabels (s : Source) (text : String) : Source := (s.removeLabels? text).getD s

end Source

end Gleaner
