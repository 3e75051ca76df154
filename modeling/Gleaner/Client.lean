/-
  Gleaner/Client.lean
  ===================
  **Reading a source live.**  Each call does one thing, search, explore, the details of a
  book, its chapters, the text of a chapter, and fails with the first fault it meets.
  Addresses in what is returned are resolved against the page they stand on.  Texts of
  chapters can be kept in a cache, under their full addresses.
-/
import Gleaner.Book.Cache
import Gleaner.Book.Extract
import Gleaner.Page.Receive
import Gleaner.Fetch.Retrieve
import Gleaner.Source.Defaults
import Gleaner.Source.Explore
import Gleaner.Url.Template

namespace Gleaner

/-- Access to sources over a network. -/
structure Client (σ : Type) where
  network : Network σ
  policy : FetchPolicy

namespace Client

variable {σ : Type}

open Fetching (notice ofResult)

/-! ### Common steps -/

def requireBase (s : Source) : Fetching σ Unit :=
  if Text.allBlank s.url then throw (.config "Source has no bookSourceUrl" none) else pure ()

def requireAddress (what url : String) : Fetching σ Unit :=
  if Text.allBlank url then throw (.config (what ++ " URL must not be empty") none) else pure ()

/-- An address on a page, resolved against that page; none stays none. -/
def resolved (page url : String) : Except Fault String :=
  if url = "" then .ok "" else Url.full page url

def load (c : Client σ) (s : Source) (url : String) : Fetching σ (Reply × Page) := do
  let headers ← ofResult s.requestHeaders
  let reply ← Fetching.fetchOk c.network c.policy url headers
  let page ← Page.receive (.bytes reply.body)
  return (reply, page)

/-- The line about an item that is left out; items count from one. -/
def skippedLine (index : Nat) (f : Fault) : String :=
  "[client] item " ++ toString (index + 1) ++ " skipped: "
    ++ String.ofList (f.inspect.toList.take 120)

def reportSkipped : List (Nat × Fault) → Fetching σ Unit
  | [] => pure ()
  | (index, f) :: more => do
      notice (skippedLine index f)
      reportSkipped more

def listLine (url : String) (usable found : Nat) : String :=
  "[client] " ++ url ++ " → " ++ toString usable ++ " of " ++ toString found ++ " item(s) usable"

def books (c : Client σ) (s : Source) (url : String) (rules : ListRules) :
    Fetching σ (List BookEntry) := do
  let (reply, page) ← c.load s url
  let harvest ← ofResult (page.books rules)
  reportSkipped harvest.failures
  let books ← ofResult (harvest.kept.mapM fun book =>
    (resolved reply.url book.url).map fun url => { book with url })
  notice (listLine url books.length harvest.found)
  return books

/-! ### Calls -/

/-- Search a source; a blank keyword finds nothing. -/
def search (c : Client σ) (s : Source) (keyword : String) (page : Int) :
    Fetching σ (List BookEntry) := do
  requireBase s
  let keyword := Text.trim keyword
  if keyword = "" then return []
  let template := Text.trim (s.searchUrl.getD "")
  if template = "" then throw (.config "Source has no searchUrl" (some s.url))
  let url ← ofResult (Url.searchUrl s.url template keyword page)
  c.books s url s.searchRulesInUse.toListRules

/-- The pages that a source offers for exploring, by title and address. -/
def exploreEntries (s : Source) : Except Fault (List (String × String)) :=
  if s.enabledExplore then Source.parseExplore s.exploreUrl else .ok []

def explore (c : Client σ) (s : Source) (url : String) (page : Int) :
    Fetching σ (List BookEntry) := do
  requireBase s
  let url ← ofResult (Url.exploreUrl s.url url page)
  c.books s url s.exploreRulesInUse

/-- The details of a book; without an address of its own the table of contents is on
    the same page. -/
def detail (c : Client σ) (s : Source) (bookUrl : String) : Fetching σ BookDetail := do
  requireBase s
  requireAddress "Book" bookUrl
  let url ← ofResult (Url.full s.url bookUrl)
  let (reply, page) ← c.load s url
  let detail ← ofResult (page.detail s.detailRulesInUse)
  let tocUrl ← if detail.tocUrl = "" then pure reply.url
    else ofResult (Url.full reply.url detail.tocUrl)
  let coverUrl ← ofResult (resolved reply.url detail.coverUrl)
  return { detail with tocUrl, coverUrl }

def noChapters (url : String) (found failed : Nat) : Fault :=
  .unreadable ("No chapters extracted (" ++ toString found ++ " matched, " ++ toString failed
    ++ " failed)") (some url)

def chaptersLine (usable failed : Nat) : String :=
  "[client] chapter list: " ++ toString usable ++ " ok, " ++ toString failed ++ " failed"

def chapters (c : Client σ) (s : Source) (tocUrl : String) : Fetching σ (List Chapter) := do
  requireBase s
  requireAddress "Table of contents" tocUrl
  let url ← ofResult (Url.full s.url tocUrl)
  let (reply, page) ← c.load s url
  let harvest ← ofResult (page.chapters s.tocRulesInUse)
  reportSkipped harvest.failures
  if harvest.kept.isEmpty then throw (noChapters url harvest.found harvest.failed)
  if harvest.failed ≠ 0 then notice (chaptersLine harvest.kept.length harvest.failed)
  ofResult (harvest.kept.mapM fun chapter =>
    (resolved reply.url chapter.url).map fun url => { chapter with url })

/-! ### Texts of chapters -/

/-- A session with the cache that goes with it, if there is one. -/
structure Desk (σ : Type) where
  session : Session σ
  cache : Option ChapterCache

/-- Work that also uses the cache. -/
abbrev Reading (σ : Type) := ExceptT Fault (StateM (Desk σ))

def Reading.ofFetching {α : Type} (work : Fetching σ α) : Reading σ α := fun desk =>
  let (result, session) := work desk.session
  (result, { desk with session })

def lookUp (url : String) : Reading σ (Option ChapterText) := fun desk =>
  match desk.cache with
  | none => (.ok none, desk)
  | some cache =>
      let (found, cache) := cache.get url
      (.ok found, { desk with cache := some cache })

def keep (url : String) (text : ChapterText) : Reading σ Unit := fun desk =>
  match desk.cache with
  | none => (.ok (), desk)
  | some cache =>
      if text.content = "" then (.ok (), desk)
      else
        let (result, cache) := cache.store url text
        (result, { desk with cache := some cache })

def fetchText (c : Client σ) (s : Source) (url : String) : Fetching σ ChapterText := do
  let (_, page) ← c.load s url
  ofResult (page.chapterText s.contentRulesInUse)

def chapterAddress (s : Source) (chapterUrl : String) : Fetching σ String := do
  requireBase s
  requireAddress "Chapter" chapterUrl
  ofResult (Url.full s.url chapterUrl)

/-- The text of a chapter, from the cache if it is there. -/
def content (c : Client σ) (s : Source) (chapterUrl : String) : Reading σ ChapterText := do
  let url ← .ofFetching (chapterAddress s chapterUrl)
  match ← lookUp url with
  | some text => return text
  | none =>
      let text ← .ofFetching (c.fetchText s url)
      keep url text
      return text

end Client

end Gleaner
