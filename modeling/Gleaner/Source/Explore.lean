/-
  Gleaner/Source/Explore.lean
  ===========================
  **Explore pages of a source.**  They are listed with their titles, either as
  `title::url` entries between line ends or `&&`, or as an array of objects.
-/
import Gleaner.Source.Basic
import Gleaner.Text.Split

namespace Gleaner.Source

/-- A value that counts as given: not null, false, zero or empty. -/
def isGiven : Json → Bool
  | .null => false
  | .bool b => b
  | .int n => n != 0
  | .real x => !x.isZero
  | .str s => s != ""
  | .arr items => !items.isEmpty
  | .obj ms => !ms.isEmpty

def entryOfItem? (v : Json) : Option (String × String) :=
  match v.member? "url" with
  | some u =>
      if isGiven u then
        let url := Text.trim u.shown
        let title :=
          match v.member? "title" with
          | some t => if isGiven t then Text.trim t.shown else url
          | none => url
        some (title, url)
      else none
  | none => none

/-- The parts of a text between line ends and pairs of ampersands; `part` is the
    part being read, in reverse. -/
def splitEntries : List Char → List Char → List (List Char)
  | [], part => [part.reverse]
  | '\n' :: s, part => part.reverse :: splitEntries s []
  | '&' :: '&' :: s, part => part.reverse :: splitEntries s []
  | c :: s, part => splitEntries s (c :: part)

/-- The title and address that a part of the text describes; a part without `::`
    is an address and its own title. -/
def entryOfPart? (part : List Char) : Option (String × String) :=
  let entry := Text.trimChars part
  if entry.isEmpty then none
  else
    let (title, url) := (Text.cutAt? [':', ':'] entry).getD (entry, entry)
    let url := Text.trimChars url
    let title := Text.trimChars title
    if url.isEmpty then none
    else some (String.ofList (if title.isEmpty then url else title), String.ofList url)

def entriesOfLines (text : List Char) : List (String × String) :=
  (splitEntries text []).filterMap entryOfPart?

def parseExplore (text : Option String) : Except Fault (List (String × String)) :=
  let text := Text.trim (text.getD "")
  if text = "" then .ok []
  else if text.toList.head? = some '[' then
    match parseJson text with
    | .ok (.arr items) => .ok (items.filterMap entryOfItem?)
    | .ok _ => .ok (entriesOfLines text.toList)
    | .error (.notJson _) => .ok (entriesOfLines text.toList)
    | .error f => .error f
  else .ok (entriesOfLines text.toList)

end Gleaner.Source
