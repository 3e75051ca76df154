/-
  Gleaner/Debug/Run.lean
  ======================
  **One run.**  Search, the details of the first book, its chapters, the text of the
  first chapter: each stage starts from what the one before it found.  Between two stages
  is a boundary, where a run that is to stop does so.  A stage that fails, or finds
  nothing to go on with, ends the run; its report tells where.
-/
import Gleaner.Book.Extract
import Gleaner.Debug.Lines
import Gleaner.Fetch.Retrieve
import Gleaner.Page.Receive
import Gleaner.Source.Defaults
import Gleaner.Source.Labels
import Gleaner.Url.Template

namespace Gleaner

/-- What a run is about: the source, how to fetch, and how much to show. -/
structure Task where
  source : Source
  policy : FetchPolicy
  settings : Settings

namespace Running

variable {σ : Type}

/-! ### Stages as a whole -/

/-- Do a stage; a fault that ends a stage aborts the run there. -/
def stage {α : Type} (env : Surroundings σ) (which : Stage) (work : Running σ α) : Running σ α :=
  fun r =>
    match work r with
    | (.error (.fault f), r) =>
        if f.endsStage then
          let r := r.log env ("✗ " ++ which.name ++ " stage failed: " ++ f.text)
          (.error (.ended (.aborted which)), r.log env "✗ Run aborted")
        else (.error (.fault f), r)
    | other => other

def abort {α : Type} (env : Surroundings σ) (which : Stage) : Running σ α := do
  log env ("✗ " ++ which.name ++ ": no usable input for next stage")
  log env "✗ Run aborted"
  throw (.ended (.aborted which))

/-- Between two stages: a run that is to stop ends here. -/
def boundary (env : Surroundings σ) : Running σ Unit := do
  if (← get).debugger.stopRequested then
    log env "⏹ Stop requested; ending run"
    throw (.ended .stopped)

def heading (env : Surroundings σ) (title : String) : Running σ Unit :=
  logAll env ["", "📋 " ++ title]

/-! ### Pages -/

def load (env : Surroundings σ) (t : Task) (url : String) : Running σ (Reply × Page) := do
  log env ("  → GET " ++ url)
  let headers ← ofResult t.source.requestHeaders
  let reply ← ofFetching (Fetching.fetch env.network t.policy url headers)
  log env (Debug.statusLine reply)
  if !reply.isOk then throw (.fault (.status "Request failed" (some url) reply.status))
  log env (Debug.bodyLine reply t.settings.previewChars)
  let page ← ofFetching (Page.receive (.bytes reply.body))
  log env (Debug.kindLine page.isData)
  return (reply, page)

/-! ### The four stages -/

/-- The template of a search: that of the source, or the usual one. -/
def searchTemplate (s : Source) : String :=
  let template := Text.trim (s.searchUrl.getD "")
  if template = "" then defaultSearchUrl else template

def searchStage (env : Surroundings σ) (t : Task) (keyword : String) :
    Running σ (List BookEntry × String) := do
  heading env "Stage 1: search"
  let rules := t.source.searchRulesInUse.toListRules
  log env (Debug.searchRulesLine rules)
  let url ← ofResult (Url.searchUrl t.source.url (searchTemplate t.source) keyword 1)
  log env ("  Keyword: " ++ keyword)
  let (reply, page) ← load env t url
  let harvest ← ofResult (page.books rules)
  logAll env (Debug.bookLines t.settings.previewItems harvest)
  return (harvest.kept, reply.url)

def detailStage (env : Surroundings σ) (t : Task) (url : String) :
    Running σ (BookDetail × Reply × Page) := do
  heading env "Stage 2: detail"
  let (reply, page) ← load env t url
  let detail ← ofResult (page.detail t.source.detailRulesInUse)
  logAll env (Debug.detailLines detail)
  return (detail, reply, page)

def chaptersOn (env : Surroundings σ) (t : Task) (page : Page) : Running σ (List Chapter) := do
  let harvest ← ofResult (page.chapters t.source.tocRulesInUse)
  logAll env (Debug.chapterLines t.settings.previewItems harvest)
  return harvest.kept

/-- The chapters of a book, and the address of the page they are on: a page of their
    own, or that of the details, which is not fetched again. -/
def tocStage (env : Surroundings σ) (t : Task) (detail : BookDetail) (reply : Reply) (page : Page) :
    Running σ (List Chapter × String) := do
  if detail.tocUrl = "" then
    heading env "Stage 3: table of contents"
    log env ("  tocUrl empty; reading chapters from the detail page " ++ reply.url)
    log env ("  ← HTTP " ++ toString reply.status ++ " (reused)")
    return (← chaptersOn env t page, reply.url)
  else
    let url ← ofResult (Url.full reply.url detail.tocUrl)
    heading env "Stage 3: table of contents"
    let (reply, page) ← load env t url
    return (← chaptersOn env t page, reply.url)

def contentStage (env : Surroundings σ) (t : Task) (url : String) : Running σ ChapterText := do
  heading env "Stage 4: content"
  let (_, page) ← load env t url
  let text ← ofResult (page.chapterText t.source.contentRulesInUse)
  logAll env (Debug.contentLines t.settings.contentPreviewChars text)
  return text

/-! ### The run -/

/-- The address of the details: the keyword, if it is an address, or that of the first
    book found. -/
def detailAddress (env : Surroundings σ) (t : Task) (keyword : String) : Running σ String := do
  if Url.isAbsolute keyword.toList then
    log env "Keyword is a URL; skipping search and using it as the detail page"
    return keyword
  let (books, page) ← stage env .search (searchStage env t keyword)
  found fun f => { f with search := books }
  let first := (books.map (·.url)).headD ""
  if first = "" then abort env .search
  ofResult (Url.full page first)

/-- The rest of a run from the boundary before the text: `first` is the address of the
    first chapter, as it stands on the page of the chapters. -/
def fromText (env : Surroundings σ) (t : Task) (page first : String) : Running σ Unit := do
  boundary env
  let url ← ofResult (Url.full page first)
  let text ← stage env .content (contentStage env t url)
  found fun f => { f with content := some text }
  logAll env ["", "✓ Debug run complete"]

def fromChapters (env : Surroundings σ) (t : Task) (detail : BookDetail) (reply : Reply)
    (page : Page) :
    Running σ Unit := do
  boundary env
  let (chapters, tocPage) ← stage env .toc (tocStage env t detail reply page)
  found fun f => { f with chapters := chapters }
  let first := (chapters.map (·.url)).headD ""
  if first = "" then abort env .toc
  fromText env t tocPage first

def fromDetail (env : Surroundings σ) (t : Task) (url : String) : Running σ Unit := do
  boundary env
  let (detail, reply, page) ← stage env .detail (detailStage env t url)
  found fun f => { f with detail := some detail }
  fromChapters env t detail reply page

def stages (env : Surroundings σ) (t : Task) (keyword : String) : Running σ Unit := do
  log env ("▶ Debugging source: " ++ t.source.displayName)
  log env ("  Base URL: " ++ t.source.url)
  let url ← detailAddress env t keyword
  fromDetail env t url

end Running

/-- What a run leaves behind. -/
structure RunResult (σ : Type) where
  /-- The report, or the fault that no stage accounts for. -/
  result : Except Fault Report
  /-- The reports of runs that were refused meanwhile. -/
  refusals : List Report
  debugger : Debugger σ

namespace Debugger

variable {σ : Type}

/-- Run a task with a keyword; while another run is going on it is refused. -/
def run (env : Surroundings σ) (t : Task) (keyword : String) (d : Debugger σ) : RunResult σ :=
  if d.running then
    let (report, d) := d.refuse env
    ⟨.ok report, [], d⟩
  else
    let begun : Run σ := ⟨{ d with running := true, stopRequested := false }, .none, [], []⟩
    let (outcome, r) := Running.stages env t (Text.trim keyword) begun
    let report (ending : Ending) : Report := ⟨r.findings, ending, r.lines⟩
    let result := match outcome with
      | .ok () => .ok (report .completed)
      | .error (.ended ending) => .ok (report ending)
      | .error (.fault f) => .error f
    ⟨result, r.refusals, { r.debugger with running := false }⟩

end Debugger

end Gleaner
