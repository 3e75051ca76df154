/-
  Gleaner/Book/Extract.lean
  =========================
  **Books from pages.**  Each group of rules is put to a page.  Where a list is
  expected, every item gives one record; an item whose rules fail is counted and the
  pass goes on, and a record that identifies nothing is dropped.
-/
import Gleaner.Book.Basic
import Gleaner.Page.Basic
import Gleaner.Source.Rules

namespace Gleaner

namespace Page

/-- The text that a rule gives for an item, or for the whole page, without the blanks
    around it. -/
def fieldText (page : Page) (item : Option Item) (rule : Option String) : Except Fault String :=
  (page.text rule item).map Text.trim

def bookEntry (page : Page) (rules : ListRules) (item : Option Item) : Except Fault BookEntry := do
  let name ← page.fieldText item rules.name
  let author ← page.fieldText item rules.author
  let url ← page.fieldText item rules.bookUrl
  let intro ← page.fieldText item rules.intro
  let kind ← page.fieldText item rules.kind
  let coverUrl ← page.fieldText item rules.coverUrl
  let lastChapter ← page.fieldText item rules.lastChapter
  let wordCount ← page.fieldText item rules.wordCount
  return ⟨name, author, url, intro, kind, coverUrl, lastChapter, wordCount⟩

def chapter (page : Page) (rules : TocRules) (item : Option Item) : Except Fault Chapter := do
  let name ← page.fieldText item rules.chapterName
  let url ← page.fieldText item rules.chapterUrl
  return ⟨name, url⟩

/-- Add what comes of one item, at the place `index`, to the harvest of the items after
    it. -/
def addOutcome {α : Type} (isEmpty : α → Bool) (index : Nat) (outcome : Except Fault α)
    (rest : List α × List (Nat × Fault)) : List α × List (Nat × Fault) :=
  match outcome with
  | .ok record => if isEmpty record then rest else (record :: rest.1, rest.2)
  | .error e => (rest.1, (index, e) :: rest.2)

/-- The records and failures of items, the first of which has the place `index`. -/
def gather {α : Type} (build : Item → Except Fault α) (isEmpty : α → Bool) :
    Nat → List Item → List α × List (Nat × Fault)
  | _, [] => ([], [])
  | index, item :: items =>
      addOutcome isEmpty index (build item) (gather build isEmpty (index + 1) items)

def harvest {α : Type} (page : Page) (rule : Option String) (build : Item → Except Fault α)
    (isEmpty : α → Bool) : Except Fault (Harvest α) :=
  (page.items rule none).map fun items =>
    let (kept, failures) := gather build isEmpty 0 items
    ⟨kept, failures, items.length⟩

def books (page : Page) (rules : ListRules) : Except Fault (Harvest BookEntry) :=
  page.harvest rules.bookList (fun item => page.bookEntry rules (some item)) BookEntry.isEmpty

def chapters (page : Page) (rules : TocRules) : Except Fault (Harvest Chapter) :=
  page.harvest rules.chapterList (fun item => page.chapter rules (some item)) Chapter.isEmpty

def detail (page : Page) (rules : DetailRules) : Except Fault BookDetail := do
  let name ← page.fieldText none rules.name
  let author ← page.fieldText none rules.author
  let intro ← page.fieldText none rules.intro
  let kind ← page.fieldText none rules.kind
  let tocUrl ← page.fieldText none rules.tocUrl
  let coverUrl ← page.fieldText none rules.coverUrl
  let lastChapter ← page.fieldText none rules.lastChapter
  let wordCount ← page.fieldText none rules.wordCount
  return ⟨name, author, intro, kind, tocUrl, coverUrl, lastChapter, wordCount⟩

def chapterText (page : Page) (rules : ContentRules) : Except Fault ChapterText := do
  let title ← page.fieldText none rules.title
  let content ← page.fieldText none rules.content
  return ⟨title, content⟩

end Page

end Gleaner
