/-
  Gleaner/Command/Run.lean
  ========================
  **Running commands.**  A command reads files of a folder, asks a network and says what
  comes of it, line by line.  It ends well, or with a code for failure, or with a fault
  that it does not account for.
-/
import Gleaner.Client
import Gleaner.Command.Basic
import Gleaner.Debug.Run
import Gleaner.Folder
import Gleaner.Json.Printer

namespace Gleaner

structure Site (σ : Type) where
  files : Files
  settings : Settings
  network : Network σ
  stamp : σ → String

inductive Exit where
  | success
  /-- It has said what failed. -/
  | failure
  /-- The arguments were not understood. -/
  | usage
  | fault (f : Fault)
deriving DecidableEq, Repr, Inhabited

namespace Exit

def code : Exit → Nat
  | .success => 0
  | .failure => 1
  | .usage => 2
  | .fault _ => 1

def fault? : Exit → Option Fault
  | .fault f => some f
  | _ => none

end Exit

/-- Steps of a command: they go on, or end it early. -/
abbrev Commanding (σ : Type) := ExceptT Exit (StateM (Session σ))

namespace Commanding

variable {σ : Type}

def say (line : String) : Commanding σ Unit := modify (·.note (.notice line))

def sayAll : List String → Commanding σ Unit
  | [] => pure ()
  | line :: more => do
      say line
      sayAll more

def fail {α : Type} (line : String) : Commanding σ α := do
  say line
  throw .failure

/-- Work on the network; a fault of a stage is said under the name of the command, any
    other is not accounted for. -/
def attempt {α : Type} (name : String) (work : Fetching σ α) : Commanding σ α := fun s =>
  match work s with
  | (.ok a, s) => (.ok a, s)
  | (.error f, s) =>
      if f.endsStage then fail ("[" ++ name ++ "] " ++ f.text) s else (.error (.fault f), s)

def ofResult {α : Type} : Except Fault α → Commanding σ α
  | .ok a => pure a
  | .error f => throw (.fault f)

/-! ### Files -/

/-- The text of a file with one kind of line end. -/
def plainLines : List Char → List Char
  | '\r' :: '\n' :: s => '\n' :: plainLines s
  | '\r' :: s => '\n' :: plainLines s
  | c :: s => c :: plainLines s
  | [] => []

def readBytes? (site : Site σ) (path : Path) : Commanding σ (Option (List UInt8)) :=
  match site.files path with
  | .file bytes => pure (some bytes)
  | .missing => pure none
  | .folder => throw (.fault (.isFolder path.text))
  | .blocked => throw (.fault (.notFolder path.text))

/-- The sources in a file, or a sentence that says what is wrong with it. -/
def sourcesOf (bytes : List UInt8) : Except String (Except Fault (List Source)) :=
  match Text.Utf8.decode bytes with
  | .error report => .error report.message
  | .ok text =>
      match Source.parseFile (String.ofList (plainLines text)) with
      | .ok sources => .ok (.ok sources)
      | .error (.notJson m) => .error m
      | .error (.badValue m) => .error m
      | .error f => .ok (.error f)

def sourceFolder (s : Settings) : Path := s.sources.getD (Path.ofText "sources")

/-- Load the source with a number, counted from zero, from a file. -/
def loadSource (site : Site σ) (name : String) (index : Int) : Commanding σ Source := do
  let path := site.files.sourcePath (sourceFolder site.settings) name
  match ← readBytes? site path with
  | none => fail ("[source] File not found: " ++ path.text)
  | some bytes =>
      match sourcesOf bytes with
      | .error reason => fail ("[source] Invalid source file " ++ path.text ++ ": " ++ reason)
      | .ok result =>
          let sources ← ofResult result
          if sources.isEmpty then fail ("[source] No sources in " ++ path.text)
          else
            match (if 0 ≤ index then sources[index.toNat]? else none) with
            | some source => return source
            | none =>
                fail ("[source] Index " ++ toString index ++ " out of range (file has "
                  ++ toString sources.length ++ " source(s))")

/-! ### The commands -/

def clientOf (site : Site σ) : Client σ := ⟨site.network, .ofSettings site.settings⟩

def orUnknown (s : String) : String := if s = "" then "?" else s

def bookLine (b : BookEntry) : String :=
  "  " ++ orUnknown b.name ++ "  [" ++ orUnknown b.author ++ "]  " ++ b.url

def demo : Commanding σ Unit := say (Source.sample 0).text

def itemText : Item → String
  | .value v => String.ofList (v.spaced.toList.take 200)
  | .element p => String.ofList ((Text.oneLine p.node.render).toList.take 200)

def numbered (texts : List String) : List String :=
  (texts.zipIdx 1).map fun (text, place) => "  [" ++ toString place ++ "] " ++ text

def select (site : Site σ) (file rule : String) (asList : Bool) : Commanding σ Unit := do
  let path := Path.ofText file
  match ← readBytes? site path with
  | none => fail ("[select] File not found: " ++ path.text)
  | some bytes =>
      let page ← attempt "select" (Page.receive (.bytes bytes))
      if asList then
        let items ← ofResult (page.items (some rule) none)
        say ("[select] " ++ toString items.length ++ " match(es)")
        sayAll (numbered (items.map itemText))
      else say (← ofResult (page.text (some rule) none))

def search (site : Site σ) (file keyword : String) (page index : Int) : Commanding σ Unit := do
  let source ← loadSource site file index
  let books ← attempt "search" ((clientOf site).search source keyword page)
  if books.isEmpty then say ("[search] No results for " ++ Text.quoted keyword ++ ".")
  else sayAll (books.map bookLine)

def entryText (entry : String × String) : String := entry.1 ++ "  " ++ entry.2

def loadEntry (site : Site σ) (source : Source) (title url : String) (page : Int) :
    Commanding σ Unit := do
  let books ← attempt "explore" ((clientOf site).explore source url page)
  say ("[explore] " ++ title ++ ": " ++ toString books.length ++ " book(s)")
  sayAll (books.map bookLine)

/-- List entries, or load the one with a number, counted from one. -/
def showEntries (site : Site σ) (source : Source) (entries : List (String × String))
    (entry page : Int) :
    Commanding σ Unit :=
  if entry = 0 then sayAll (numbered (entries.map entryText))
  else
    match (if 1 ≤ entry then entries[(entry - 1).toNat]? else none) with
    | none =>
        fail ("[explore] Entry " ++ toString entry ++ " out of range (source has "
          ++ toString entries.length ++ ")")
    | some (title, url) => loadEntry site source title url page

def explore (site : Site σ) (file : String) (entry page index : Int) : Commanding σ Unit := do
  let source ← loadSource site file index
  let entries ← ofResult (Client.exploreEntries source)
  if entries.isEmpty then fail "[explore] Source declares no explore pages."
  else showEntries site source entries entry page

def debug (site : Site σ) (file keyword : String) (index : Int) : Commanding σ Unit := do
  let source ← loadSource site file index
  let env : Surroundings σ := ⟨site.network, fun _ state => (⟨false, false⟩, state), site.stamp⟩
  let task : Task := ⟨source, .ofSettings site.settings, site.settings⟩
  let run := Debugger.run env task keyword ⟨← get, false, false⟩
  set run.debugger.session
  let report ← ofResult run.result
  if report.abortedAt?.isSome then throw .failure

def perform (site : Site σ) : Command → Commanding σ Unit
  | .demo => demo
  | .select file rule asList => select site file rule asList
  | .search file keyword page index => search site file keyword page index
  | .explore file entry page index => explore site file entry page index
  | .debug file keyword index => debug site file keyword index

end Commanding

/-- Run a command line: how it ends, and the session with what it said. -/
def runArguments {σ : Type} (site : Site σ) (args : List String) (s : Session σ) :
    Exit × Session σ :=
  match Command.ofArguments? args with
  | none => (.usage, s)
  | some command =>
      match Commanding.perform site command s with
      | (.ok (), s) => (.success, s)
      | (.error exit, s) => (exit, s)

end Gleaner
