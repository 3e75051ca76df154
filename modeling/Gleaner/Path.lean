/-
  Gleaner/Path.lean
  =================
  **Paths.**  The name of a file as a root and the names below it.  Empty names and
  single dots are left out; two dots stay, for what they mean depends on the files
  that are there.
-/
import Gleaner.Text.Split

namespace Gleaner

structure Path where
  /-- The slashes in front: none, one, or exactly two. -/
  root : String
  names : List String
deriving DecidableEq, Repr, Inhabited

namespace Path

/-- The slashes in front that matter: two count as two, more as one. -/
def rootOf : List Char → String
  | '/' :: '/' :: '/' :: _ => "/"
  | '/' :: '/' :: _ => "//"
  | '/' :: _ => "/"
  | _ => ""

def ofText (s : String) : Path :=
  let names := (Text.splitChar '/' s.toList).map String.ofList
  ⟨rootOf s.toList, names.filter fun n => n ≠ "" && n ≠ "."⟩

/-- The text of a path; the path of nothing is a dot. -/
def text (p : Path) : String :=
  let t := p.root ++ "/".intercalate p.names
  if t = "" then "." else t

def isAbsolute (p : Path) : Bool := p.root ≠ ""

/-- A path below another one; one that starts at a root stands for itself. -/
def append (p q : Path) : Path := if q.isAbsolute then q else ⟨p.root, p.names ++ q.names⟩

instance : Append Path := ⟨append⟩

def name (p : Path) : String := p.names.getLastD ""

/-- A name has an ending: a dot after its first and before its last character, with
    no other dot behind it. -/
def hasEnding (name : String) : Bool :=
  let cs := name.toList
  let after := cs.reverse.takeWhile (· ≠ '.')
  after.length ≠ 0 && decide (after.length + 1 < cs.length)

def withEnding (p : Path) (ending : String) : Path :=
  ⟨p.root, p.names.dropLast ++ [p.name ++ ending]⟩

end Path

end Gleaner
