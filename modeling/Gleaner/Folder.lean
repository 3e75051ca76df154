/-
  Gleaner/Folder.lean
  ===================
  **Files.**  What stands at a path is a file with its bytes, a folder, or nothing.  A
  folder can be given as the list of what is in it; a path is then followed name by name,
  two dots lead back to where the name before them started, and every step but the last
  has to stand on a folder.
-/
import Gleaner.Path

namespace Gleaner

inductive Entry where
  | file (bytes : List UInt8)
  | folder
  /-- Nothing. -/
  | missing
  /-- The path leads through something that is no folder. -/
  | blocked
deriving DecidableEq, Repr, Inhabited

abbrev Files := Path → Entry

namespace Files

def holds (f : Files) (p : Path) : Bool :=
  match f p with
  | .file _ => true
  | .folder => true
  | _ => false

/-- A path below the folder of sources, with the ending of data if it has none. -/
def below (sources path : Path) : Path :=
  let candidate := sources ++ path
  if Path.hasEnding candidate.name then candidate else candidate.withEnding ".json"

/-- Where a source is: at its path if that is absolute or something stands there, else
    under the same name in the folder of sources. -/
def sourcePath (f : Files) (sources : Path) (name : String) : Path :=
  let path := Path.ofText name
  if f.holds path || path.isAbsolute then path else below sources path

end Files

structure Folder where
  /-- The names that lead to a file, and its bytes; no bytes for a folder. -/
  entries : List (List String × Option (List UInt8))
deriving DecidableEq, Repr, Inhabited

namespace Folder

def entryAt (f : Folder) (names : List String) : Entry :=
  match f.entries.find? (·.1 == names) with
  | some (_, some bytes) => .file bytes
  | some (_, none) => .folder
  | none =>
      if names = [] ∨ f.entries.any fun (key, _) => names.isPrefixOf key then .folder
      else .missing

/-- Follow names from a folder, given by the names that lead to it. -/
def follow (f : Folder) : List String → List String → Entry
  | place, [] => f.entryAt place
  | place, name :: more =>
      match f.entryAt place with
      | .file _ => .blocked
      | .folder =>
          if name = ".." then
            -- Nothing is known of what stands above.
            if place = [] then (if more = [] then .folder else .missing)
            else follow f place.dropLast more
          else follow f (place ++ [name]) more
      | e => e

/-- The files of a folder, by paths from there; of other roots nothing is known. -/
def files (f : Folder) : Files := fun p =>
  if p.isAbsolute then (if p.names = [] then .folder else .missing) else f.follow [] p.names

end Folder

end Gleaner
