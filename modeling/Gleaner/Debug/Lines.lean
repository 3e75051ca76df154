/-
  Gleaner/Debug/Lines.lean
  ========================
  **The lines of a run.**  What a run says about a page, the items of a list, and the
  records it finds, from the records alone.
-/
import Gleaner.Debug.Basic
import Gleaner.Source.Rules
import Gleaner.Text.Blank

namespace Gleaner.Debug

def orMissing (s : String) : String := if s = "" then "(not resolved)" else s

/-- The first items, or all but the last ones for a negative number. -/
def firstItems {α : Type} (limit : Int) (items : List α) : List α :=
  if 0 ≤ limit then items.take limit.toNat else items.take (items.length - limit.natAbs)

def searchRulesLine (rules : ListRules) : String :=
  "  Rules: bookList=" ++ Text.quotedOption rules.bookList ++ " name="
    ++ Text.quotedOption rules.name
    ++ " author=" ++ Text.quotedOption rules.author ++ " bookUrl="
      ++ Text.quotedOption rules.bookUrl
    ++ " intro=" ++ Text.quotedOption rules.intro

def statusLine (reply : Reply) : String :=
  "  ← HTTP " ++ toString reply.status ++ ", " ++ toString reply.body.length ++ " bytes"

def bodyLine (reply : Reply) (limit : Int) : String :=
  "  Body: " ++ Text.oneLine (reply.preview limit)

def kindLine (isData : Bool) : String := "  Parsed as " ++ if isData then "JSON" else "HTML"

/-- An item that is left out; items count from one. -/
def skippedLine (failure : Nat × Fault) : String :=
  "  ⚠ item " ++ toString (failure.1 + 1) ++ " skipped: " ++ failure.2.inspect

def countLine {α : Type} (what : String) (h : Harvest α) : String :=
  "  " ++ what ++ ": " ++ toString h.found ++ " matched, " ++ toString h.kept.length ++ " usable ("
    ++ toString h.failed ++ " failed, " ++ toString h.discarded ++ " empty)"

/-- The two lines of an item that is shown; `place` counts from one. -/
def itemLines (place : Nat) (title url : String) : List String :=
  ["  [" ++ toString place ++ "] " ++ title, "      url: " ++ orMissing url]

def previewLines {α : Type} (title url : α → String) (limit : Int) (items : List α) : List String :=
  ((firstItems limit items).zipIdx 1).flatMap fun (item, place) =>
    itemLines place (title item) (url item)

def bookLines (limit : Int) (h : Harvest BookEntry) : List String :=
  h.failures.map skippedLine ++ [countLine "Items" h]
    ++ previewLines (fun b => orMissing b.name ++ " / " ++ orMissing b.author) (·.url) limit h.kept

def chapterLines (limit : Int) (h : Harvest Chapter) : List String :=
  h.failures.map skippedLine ++ [countLine "Chapters" h]
    ++ previewLines (fun c => orMissing c.name) (·.url) limit h.kept

def detailLines (d : BookDetail) : List String :=
  ["  name:   " ++ orMissing d.name, "  author: " ++ orMissing d.author,
   "  kind:   " ++ orMissing d.kind,
   "  intro:  " ++ orMissing (Text.clip (Text.oneLine d.intro) 100),
   "  cover:  " ++ orMissing d.coverUrl, "  tocUrl: " ++ orMissing d.tocUrl]

def contentLines (limit : Int) (t : ChapterText) : List String :=
  ("  title:  " ++ orMissing t.title)
    :: if t.content = "" then ["  ⚠ content resolved empty"]
      else
        ["  content: " ++ Text.clip (Text.oneLine t.content) limit,
         "  length: " ++ toString t.content.length ++ " characters"]

end Gleaner.Debug
