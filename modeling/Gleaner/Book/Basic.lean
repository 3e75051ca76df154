/-
  Gleaner/Book/Basic.lean
  =======================
  **Books.**  What a source tells about books: entries of result lists, the details
  of one book, its chapters, and the text of a chapter.  A harvest is what one pass
  over a list of items gave: the records kept, the items that failed with their
  faults, and how many items there were.
-/
import Gleaner.Fault

namespace Gleaner

structure BookEntry where
  name : String
  author : String
  url : String
  intro : String
  kind : String
  coverUrl : String
  lastChapter : String
  wordCount : String
deriving DecidableEq, Repr, Inhabited

/-- Nothing identifies the book. -/
def BookEntry.isEmpty (b : BookEntry) : Bool :=
  b.name = "" && b.author = "" && b.url = "" && b.intro = ""

structure BookDetail where
  name : String
  author : String
  intro : String
  kind : String
  tocUrl : String
  coverUrl : String
  lastChapter : String
  wordCount : String
deriving DecidableEq, Repr, Inhabited

structure Chapter where
  name : String
  url : String
deriving DecidableEq, Repr, Inhabited

def Chapter.isEmpty (c : Chapter) : Bool := c.name = "" && c.url = ""

structure ChapterText where
  title : String
  content : String
deriving DecidableEq, Repr, Inhabited

/-- What a pass over a list of items gave. -/
structure Harvest (α : Type) where
  /-- The records kept, in the order of their items. -/
  kept : List α
  /-- The failures with the places of their items, counted from zero. -/
  failures : List (Nat × Fault)
  /-- How many items there were. -/
  found : Nat
deriving Repr, Inhabited

namespace Harvest

def failed {α : Type} (h : Harvest α) : Nat := h.failures.length

/-- How many items gave a record that identifies nothing. -/
def discarded {α : Type} (h : Harvest α) : Nat := h.found - h.failed - h.kept.length

end Harvest

end Gleaner
