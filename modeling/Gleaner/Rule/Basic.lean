/-
  Gleaner/Rule/Basic.lean
  =======================
  **Rules in compiled form.**  A rule is written as segments between `@`.  All
  but the last say, step by step, which node to find; the last one may be a
  reserved word that says what to read from it.  Blank segments count for
  nothing, so padding and doubled, leading or trailing `@` never matter.
-/
import Gleaner.Text.Blank
import Gleaner.Text.Split

namespace Gleaner

/-- A compiled rule: selector steps, each a descendant of the one before, and
    the reserved word at the end, if there is one. -/
structure Rule where
  steps : List String
  reading : Option String
deriving DecidableEq, Repr

namespace Rule

def reserved : List String := ["text", "html", "href", "src", "textNodes"]

/-- The short forms of a step and what they stand for in a selector. -/
def shorthands : List (String × String) := [("class.", "."), ("id.", "#"), ("tag.", "")]

/-- The empty rule, which stands for the context itself. -/
def empty : Rule := ⟨[], none⟩

def expandFirst (s : List Char) : List (String × String) → List Char
  | [] => s
  | (short, long) :: rest =>
      match Text.dropFront? short.toList s with
      | some tail => long.toList ++ tail
      | none => expandFirst s rest

def normalizeSegment (segment : String) : String :=
  String.ofList (expandFirst (Text.trimChars segment.toList) shorthands)

/-- The trimmed parts between `@` that are not blank. -/
def segments (rule : String) : List String :=
  ((Text.splitChar '@' rule.toList).map fun p => String.ofList (Text.trimChars p)).filter
    (· ≠ "")

def stepsOf (parts : List String) : List String :=
  (parts.map normalizeSegment).filter (· ≠ "")

/-- A rule from its segments: a reserved word at the end says what to read. -/
def ofSegments (parts : List String) : Rule :=
  match parts.getLast? with
  | none => empty
  | some last =>
      if last ∈ reserved then ⟨stepsOf parts.dropLast, some last⟩
      else ⟨stepsOf parts, none⟩

/-- Compile a rule; an absent rule is the empty one. -/
def compile (rule : Option String) : Rule := ofSegments (segments (rule.getD ""))

def css (r : Rule) : String := " ".intercalate r.steps

/-- The key a rule stands for in a tree of members: the rule without a reserved
    word that follows its last `@`. -/
def key (rule : String) : String :=
  let parts := Text.splitChar '@' rule.toList
  let kept :=
    match parts.getLast? with
    | some last =>
        if 1 < parts.length ∧ String.ofList (Text.trimChars last) ∈ reserved then parts.dropLast
        else parts
    | none => parts
  String.ofList (Text.trimChars (Text.joinChar '@' kept))

end Rule

end Gleaner
