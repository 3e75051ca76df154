/-
  Gleaner/Proofs/Command/Explore.lean
  ===================================
  **Entries by number.**  A source lists its pages for exploring from one on, and a page is
  loaded by the number under which it is listed (`entries_load_as_listed`): zero lists them
  all, and a number below zero or past the last entry fails without a request.  What a line
  gives is read first, so this holds for the numbers that a line can carry, which are the
  short ones.

  An entry that has an address is not always asked for.  The address may tell no server, as
  where the address of the source itself is written without a scheme, and then the fetch
  fails before it gets to the wire (`schemeless_entry_not_asked`).
-/
import Gleaner.Command.Run
import Gleaner.Proofs.Client.Agreement
import Gleaner.Proofs.Command.Line
import Gleaner.Proofs.Fetch.Wire
import Gleaner.Proofs.Json.Bytes

namespace Gleaner

variable {σ : Type}

/-! ### Lines -/

def Session.tell (s : Session σ) (lines : List String) : Session σ :=
  { s with events := s.events ++ lines.map .notice }

@[simp] theorem Session.tell_network (s : Session σ) (lines : List String) :
    (s.tell lines).network = s.network := rfl

theorem Session.tell_cons (s : Session σ) (line : String) (lines : List String) :
    (s.note (.notice line)).tell lines = s.tell (line :: lines) := by
  simp [Session.tell, Session.note]

namespace Commanding

theorem say_run (line : String) (s : Session σ) :
    say line s = (.ok (), s.note (.notice line)) := rfl

theorem sayAll_run (lines : List String) (s : Session σ) :
    sayAll lines s = (.ok (), s.tell lines) := by
  induction lines generalizing s with
  | nil => simp [sayAll, Session.tell]
  | cons line lines ih =>
    rw [sayAll, bind_run, say_run]
    dsimp only
    rw [ih, Session.tell_cons]

theorem fail_run {α : Type} (line : String) (s : Session σ) :
    (fail line : Commanding σ α) s = (.error .failure, s.tell [line]) := rfl

theorem attempt_ok {α : Type} {name : String} {work : Fetching σ α} {a : α} {s s' : Session σ}
    (h : work s = (.ok a, s')) : attempt name work s = (.ok a, s') := by
  unfold attempt
  rw [h]

/-- Work that fails ends the command with a code for failure. -/
theorem attempt_error {α : Type} (name : String) {work : Fetching σ α} {e : Fault}
    {s s' : Session σ} (h : work s = (.error e, s')) :
    ∃ exit t, attempt name work s = (.error exit, t)
      ∧ exit.code = 1 ∧ t.network = s'.network := by
  unfold attempt
  rw [h]
  dsimp only
  by_cases hstage : e.endsStage = true
  · rw [if_pos hstage]
    exact ⟨_, _, rfl, rfl, rfl⟩
  · rw [if_neg hstage]
    exact ⟨_, _, rfl, rfl, rfl⟩

end Commanding

/-! ### Sources in files -/

/-- A file holds a source at a place, counted from zero. -/
def Site.Holds (site : Site σ) (file : String) (index : Int) (source : Source) : Prop :=
  ∃ bytes sources,
    site.files (site.files.sourcePath (Commanding.sourceFolder site.settings) file) = .file bytes
    ∧ Commanding.sourcesOf bytes = .ok (.ok sources)
    ∧ ∃ place : Nat, index = place ∧ sources[place]? = some source

namespace Commanding

theorem readBytes?_run (site : Site σ) (path : Path) (s : Session σ) : readBytes? site path s =
    (match site.files path with
      | .file bytes => .ok (some bytes)
      | .missing => .ok none
      | .folder => .error (.fault (.isFolder path.text))
      | .blocked => .error (.fault (.notFolder path.text)), s) := by
  unfold readBytes?
  cases site.files path <;> rfl

section
variable {site : Site σ} {file : String} {index : Int} {source : Source}

theorem loadSource_eq_ok (h : site.Holds file index source) (s : Session σ) :
    loadSource site file index s = (.ok source, s) := by
  obtain ⟨bytes, sources, hfile, hsources, place, rfl, hsource⟩ := h
  have hsome : sources.isEmpty = false := by
    cases sources with
    | nil => cases hsource
    | cons => rfl
  unfold loadSource
  rw [bind_run, readBytes?_run, hfile]
  dsimp only
  rw [hsources]
  dsimp only [ofResult]
  rw [bind_run, pure_run]
  dsimp only
  rw [hsome, if_neg Bool.false_ne_true, if_pos (Int.natCast_nonneg place),
    Int.toNat_natCast, hsource]
  rfl

end

theorem plainLines_of_notMem {text : List Char} (h : '\r' ∉ text) : plainLines text = text := by
  fun_induction plainLines text with
  | case1 text ih => simp at h
  | case2 text hnext ih => simp at h
  | case3 c text hfirst hsecond ih => rw [ih (List.not_mem_of_not_mem_cons h)]
  | case4 => rfl

/-- A file with an object holds the source that the object describes. -/
theorem sourcesOf_encode {text : String} {ms : Json.Members} (hplain : '\r' ∉ text.toList)
    (h : Source.parseJson text = .ok (.obj ms)) :
    sourcesOf (Text.Utf8.encode text.toList) = .ok (.ok [.ofMembers ms]) := by
  unfold sourcesOf
  rw [Text.Utf8.decode_encode]
  dsimp only
  rw [plainLines_of_notMem hplain, String.ofList_toList, Source.parseFile, h]
  rfl

end Commanding

/-- A file holds a source that can be asked for pages to explore: it has a base address, its
    headers can be read, and it lists at least one entry. -/
structure Site.Offers (site : Site σ) (file : String) (index : Int) (source : Source)
    (headers entries : List (String × String)) : Prop where
  held : site.Holds file index source
  based : Text.allBlank source.url = false
  readable : source.requestHeaders = .ok headers
  listed : Client.exploreEntries source = .ok entries
  nonempty : entries ≠ []

namespace Commanding

section
variable {site : Site σ} {file : String} {index : Int} {source : Source}
  {headers entries : List (String × String)}

theorem explore_of_offers (h : site.Offers file index source headers entries) (entry page : Int)
    (s : Session σ) :
    explore site file entry page index s = showEntries site source entries entry page s := by
  have hsome : entries.isEmpty = false := by simpa using h.nonempty
  unfold explore
  rw [bind_run, loadSource_eq_ok h.held]
  dsimp only
  rw [bind_run, h.listed]
  dsimp only [ofResult]
  rw [pure_run]
  dsimp only
  rw [hsome, if_neg Bool.false_ne_true]

theorem showEntries_zero (page : Int) (s : Session σ) :
    showEntries site source entries 0 page s
      = (.ok (), s.tell (numbered (entries.map entryText))) := by
  rw [showEntries, if_pos rfl, sayAll_run]

theorem showEntries_listed {j : Nat} {title url : String} (h : entries[j]? = some (title, url))
    (page : Int) :
    showEntries site source entries (j + 1) page = loadEntry site source title url page := by
  have hplace : ((j : Int) + 1 - 1).toNat = j := by omega
  rw [showEntries, if_neg (by omega), if_pos (by omega), hplace, h]

/-- No entry has this number. -/
theorem showEntries_unlisted {entry : Int} (hzero : entry ≠ 0)
    (hnone : ∀ j : Nat, entry = j + 1 → entries[j]? = none) (page : Int) (s : Session σ) :
    showEntries site source entries entry page s = (.error .failure, s.tell ["[explore] Entry "
      ++ toString entry ++ " out of range (source has " ++ toString entries.length ++ ")"]) := by
  have hlookup : (if 1 ≤ entry then entries[(entry - 1).toNat]? else none) = none := by
    by_cases hpos : 1 ≤ entry
    · rw [if_pos hpos]
      exact hnone _ (by omega)
    · rw [if_neg hpos]
  rw [showEntries, if_neg hzero, hlookup]
  exact fail_run _ s

def loadedLines (title : String) (books : List BookEntry) : List String :=
  ("[explore] " ++ title ++ ": " ++ toString books.length ++ " book(s)") :: books.map bookLine

theorem loadEntry_ok {title url : String} {page : Int} {books : List BookEntry} {s t : Session σ}
    (h : (clientOf site).explore source url page s = (.ok books, t)) :
    loadEntry site source title url page s = (.ok (), t.tell (loadedLines title books)) := by
  rw [loadEntry, bind_run, attempt_ok h]
  dsimp only
  rw [bind_run, say_run]
  dsimp only
  rw [sayAll_run, Session.tell_cons, loadedLines]

theorem loadEntry_error (title : String) {url : String} {page : Int} {e : Fault} {s t : Session σ}
    (h : (clientOf site).explore source url page s = (.error e, t)) :
    ∃ exit t', loadEntry site source title url page s = (.error exit, t')
      ∧ exit.code = 1 ∧ t'.network = t.network := by
  obtain ⟨exit, t', hattempt, hcode, hnetwork⟩ := attempt_error "explore" h
  refine ⟨exit, t', ?_, hcode, hnetwork⟩
  rw [loadEntry, bind_run, hattempt]

theorem getElem?_numbered {texts : List String} {j : Nat} {text : String}
    (h : texts[j]? = some text) :
    (numbered texts)[j]? = some ("  [" ++ toString (j + 1) ++ "] " ++ text) := by
  simp [numbered, h, Nat.add_comm]

end

end Commanding

/-! ### Addresses of entries -/

namespace Client

variable {c : Client σ} {s : Source} {url u : String} {page : Int}

/-- The books on a page for exploring are those at its address. -/
theorem explore_eq_books (hbase : Text.allBlank s.url = false)
    (h : Url.exploreUrl s.url url page = .ok u) :
    c.explore s url page = c.books s u s.exploreRulesInUse := by
  unfold explore requireBase
  rw [if_neg (by simp [hbase]), h]
  rfl

theorem explore_unresolved {e : Fault} (hbase : Text.allBlank s.url = false)
    (h : Url.exploreUrl s.url url page = .error e) (session : Session σ) :
    c.explore s url page session = (.error e, session) := by
  unfold explore requireBase
  rw [if_neg (by simp [hbase]), h]
  rfl

end Client

/-! ### Runs -/

section
variable {site : Site σ} {args : List String} {command : Command} {s t : Session σ}

theorem runArguments_ok (hargs : Command.ofArguments? args = some command)
    (h : Commanding.perform site command s = (.ok (), t)) :
    runArguments site args s = (.success, t) := by
  unfold runArguments
  rw [hargs]
  dsimp only
  rw [h]

theorem runArguments_error {exit : Exit} (hargs : Command.ofArguments? args = some command)
    (h : Commanding.perform site command s = (.error exit, t)) :
    runArguments site args s = (exit, t) := by
  unfold runArguments
  rw [hargs]
  dsimp only
  rw [h]

/-- A line that is not understood does nothing. -/
theorem runArguments_usage (hargs : Command.ofArguments? args = none) :
    runArguments site args s = (.usage, s) := by
  unfold runArguments
  rw [hargs]

end

/-- Every entry is listed on a line of its own, in order, with its number from one on; that
    is all. -/
def ListsAll (entries : List (String × String)) (s : Session σ) (run : Exit × Session σ) : Prop :=
  ∃ lines : List String, lines.length = entries.length
    ∧ (∀ (j : Nat) title url, entries[j]? = some (title, url) →
      lines[j]? = some ("  [" ++ toString (j + 1) ++ "] " ++ (title ++ "  " ++ url)))
    ∧ run = (.success, s.tell lines)

def Site.policy (site : Site σ) : FetchPolicy := .ofSettings site.settings

open Fetching (firstRequest) in
/-- The address of an entry is loaded: the server is asked for it first, or, if the wire does
    not admit it, not at all.  When the books on its page are found, its title and their
    number are shown and then one line for each of them, in order. -/
structure LoadsEntry (site : Site (σ × List WireRequest)) (source : Source)
    (headers : List (String × String)) (title url : String) (page : Int) (u : String)
    (s : Session (σ × List WireRequest)) (run : Exit × Session (σ × List WireRequest)) : Prop where
  asks : ∀ address, 0 ≤ site.policy.maxRedirects →
    Wire.Admits (firstRequest site.policy u headers) address →
    ∃ more, run.2.network.2
      = s.network.2 ++ Wire.sent (firstRequest site.policy u headers) address :: more
  refuses : ¬ (0 ≤ site.policy.maxRedirects
      ∧ ∃ address, Wire.Admits (firstRequest site.policy u headers) address) →
    run.1.code = 1 ∧ run.2.network = s.network
  shows : ∀ t, run = (.success, t) ↔ ∃ books t',
    (Commanding.clientOf site).explore source url page s = (.ok books, t')
      ∧ t = t'.tell (Commanding.loadedLines title books)

section
variable {server : Server σ} {site : Site (σ × List WireRequest)} {file : String} {index : Int}
  {source : Source} {headers entries : List (String × String)} {args : List String}
  {entry page : Int} {s : Session (σ × List WireRequest)}

open Commanding (explore_of_offers)

theorem listsAll_of_zero {site : Site σ} {s : Session σ}
    (h : site.Offers file index source headers entries)
    (hargs : Command.ofArguments? args = some (.explore file 0 page index)) :
    ListsAll entries s (runArguments site args s) := by
  refine ⟨Commanding.numbered (entries.map Commanding.entryText),
    by simp [Commanding.numbered], ?_, ?_⟩
  · intro j title url hj
    exact Commanding.getElem?_numbered (by simp [hj, Commanding.entryText])
  · exact runArguments_ok hargs
      ((explore_of_offers h 0 page s).trans (Commanding.showEntries_zero page s))

section
variable {j : Nat} {title url u : String} (h : site.Offers file index source headers entries)
  (hargs : Command.ofArguments? args = some (.explore file (j + 1) page index))
  (hj : entries[j]? = some (title, url))

include h hj in
theorem perform_listed (page : Int) (s : Session (σ × List WireRequest)) :
    Commanding.perform site (.explore file (j + 1) page index) s
      = Commanding.loadEntry site source title url page s := by
  refine (explore_of_offers h _ page s).trans ?_
  rw [Commanding.showEntries_listed hj]

include h hargs hj

theorem run_of_books {books : List BookEntry} {t : Session (σ × List WireRequest)}
    (hcall : (Commanding.clientOf site).explore source url page s = (.ok books, t)) :
    runArguments site args s = (.success, t.tell (Commanding.loadedLines title books)) :=
  runArguments_ok hargs ((perform_listed h hj page s).trans (Commanding.loadEntry_ok hcall))

theorem run_of_fault {e : Fault} {t : Session (σ × List WireRequest)}
    (hcall : (Commanding.clientOf site).explore source url page s = (.error e, t)) :
    (runArguments site args s).1.code = 1 ∧ (runArguments site args s).2.network = t.network := by
  obtain ⟨exit, t', hentry, hcode, hnetwork⟩ := Commanding.loadEntry_error title hcall
  rw [runArguments_error hargs ((perform_listed h hj page s).trans hentry)]
  exact ⟨hcode, hnetwork⟩

/-- All that the server hears of a run is the call for the books. -/
theorem run_network : (runArguments site args s).2.network
    = ((Commanding.clientOf site).explore source url page s).2.network := by
  rcases hcall : (Commanding.clientOf site).explore source url page s with ⟨e | books, t⟩
  · exact (run_of_fault h hargs hj hcall).2
  · rw [run_of_books h hargs hj hcall, Session.tell_network]

/-- A run ends well exactly if the call comes to books, and then it goes on to show them. -/
theorem run_success_iff (t : Session (σ × List WireRequest)) :
    runArguments site args s = (.success, t) ↔
    ∃ books t', (Commanding.clientOf site).explore source url page s = (.ok books, t')
      ∧ t = t'.tell (Commanding.loadedLines title books) := by
  rcases hcall : (Commanding.clientOf site).explore source url page s with ⟨e | books, t'⟩
  · have hcode := (run_of_fault h hargs hj hcall).1
    constructor
    · intro hrun
      rw [hrun] at hcode
      cases hcode
    · rintro ⟨books, t'', hok, -⟩
      cases hok
  · rw [run_of_books h hargs hj hcall]
    constructor
    · rintro ⟨⟩
      exact ⟨books, t', rfl, rfl⟩
    · rintro ⟨books', t'', hok, rfl⟩
      cases hok
      rfl

/-- The number of an entry loads it from its address. -/
theorem loadsEntry_of_listed (hnet : site.network = Wire.overWire server.recorded)
    (hu : Url.exploreUrl source.url url page = .ok u) :
    LoadsEntry site source headers title url page u s (runArguments site args s) := by
  have hbooks : (Commanding.clientOf site).explore source url page
      = Client.books ⟨Wire.overWire server.recorded, site.policy⟩ source u
        source.exploreRulesInUse := by
    rw [Client.explore_eq_books h.based hu, Commanding.clientOf, hnet]
    rfl
  refine ⟨fun address hlimit hadmits => ?_, fun hrefused => ?_, fun t => ?_⟩
  · rw [run_network h hargs hj, hbooks]
    exact Client.opens_books h.readable hlimit hadmits source.exploreRulesInUse s
  · obtain ⟨hnetwork, e, he⟩ := Client.refused_books h.readable hrefused source.exploreRulesInUse s
    rw [← hbooks] at hnetwork he
    rcases hcall : (Commanding.clientOf site).explore source url page s with ⟨e' | books, t⟩
    · rw [hcall] at hnetwork
      exact ⟨(run_of_fault h hargs hj hcall).1,
        (run_network h hargs hj).trans (by rw [hcall, hnetwork])⟩
    · rw [hcall] at he
      cases he
  · exact run_success_iff h hargs hj t

end

/-- No page is loaded for a number without an entry, or for an entry whose address cannot be
    made. -/
theorem nothing_loaded (h : site.Offers file index source headers entries)
    (hargs : Command.ofArguments? args = some (.explore file entry page index)) (hzero : entry ≠ 0)
    (hnone : ∀ (j : Nat) title url u, entry = j + 1 → entries[j]? = some (title, url) →
      Url.exploreUrl source.url url page ≠ .ok u) :
    (runArguments site args s).1.code = 1 ∧ (runArguments site args s).2.network = s.network := by
  -- no entry has the number, or the one that has it has no address
  by_cases hlisted : ∀ j : Nat, entry = j + 1 → entries[j]? = none
  · rw [runArguments_error hargs ((explore_of_offers h entry page s).trans
      (Commanding.showEntries_unlisted hzero hlisted page s))]
    exact ⟨rfl, rfl⟩
  · push Not at hlisted
    obtain ⟨j, rfl, hsome⟩ := hlisted
    obtain ⟨⟨title, url⟩, hj⟩ := Option.ne_none_iff_exists'.mp hsome
    cases hu : Url.exploreUrl source.url url page with
    | ok u => exact absurd hu (hnone j title url u rfl hj)
    | error e => exact run_of_fault h hargs hj (Client.explore_unresolved h.based hu s)

/-- On a command line the entries of a source are loaded by the numbers under which they are
    listed.  Zero lists them all; the number of an entry loads that entry, from its address;
    any other number, one below zero as well, and the number of an entry without an address
    that can be made, fails and asks for nothing.  A line can carry every whole number that
    is short, and no other. -/
theorem entries_load_as_listed (hnet : site.network = Wire.overWire server.recorded)
    (h : site.Offers file index source headers entries) :
    (∀ args entry page s, Command.ofArguments? args = some (.explore file entry page index) →
      (entry = 0 → ListsAll entries s (runArguments site args s))
      ∧ (∀ (j : Nat) title url u, entry = j + 1 → entries[j]? = some (title, url) →
        Url.exploreUrl source.url url page = .ok u →
        LoadsEntry site source headers title url page u s (runArguments site args s))
      ∧ (entry ≠ 0 → (∀ (j : Nat) title url u, entry = j + 1 → entries[j]? = some (title, url) →
          Url.exploreUrl source.url url page ≠ .ok u) →
        (runArguments site args s).1.code = 1 ∧ (runArguments site args s).2.network = s.network))
    ∧ ∀ entry page, Command.isOption file = false →
      (Text.ShortInt entry ∧ Text.ShortInt page ∧ Text.ShortInt index →
        Command.ofArguments? (Command.exploreLine file entry page index)
          = some (.explore file entry page index))
      ∧ (¬ (Text.ShortInt entry ∧ Text.ShortInt page ∧ Text.ShortInt index) → ∀ s,
        runArguments site (Command.exploreLine file entry page index) s = (.usage, s)) := by
  refine ⟨fun args entry page s hargs => ⟨?_, ?_, ?_⟩,
    fun entry page hfile => ⟨fun hshort => ?_, fun hlong s => ?_⟩⟩
  · rintro rfl
    exact listsAll_of_zero h hargs
  · rintro j title url u rfl hj hu
    exact loadsEntry_of_listed h hargs hj hnet hu
  · exact nothing_loaded h hargs
  · rw [Command.ofArguments?_exploreLine entry page index hfile, if_pos hshort]
  · refine runArguments_usage ?_
    rw [Command.ofArguments?_exploreLine entry page index hfile, if_neg hlong]

end

/-! ### A shop with two charts -/

def Server.onePage (page : String) : Server Unit := fun r state =>
  (.reply ⟨r.url, 200, Text.Utf8.encode page.toList, []⟩, state)

theorem Server.onePage_recorded (page : String) (w : WireRequest)
    (state : Unit × List WireRequest) : (Server.onePage page).recorded w state
      = (.reply ⟨w.url, 200, Text.Utf8.encode page.toList, []⟩, (state.1, state.2 ++ [w])) := rfl

/-- A site with one file, and with the same page at every address. -/
def Site.stocked (text page : String) (maxRedirects : Int) : Site (Unit × List WireRequest) where
  files := Folder.files ⟨[(["s.json"], some (Text.Utf8.encode text.toList))]⟩
  settings := ⟨.whole 1, 0, .whole 0, maxRedirects, "gleaner", 3, 200, 100, none⟩
  network := Wire.overWire (Server.onePage page).recorded
  stamp _ := ""

theorem Site.stocked_holds {text : String} {ms : Json.Members} (hplain : '\r' ∉ text.toList)
    (h : Source.parseJson text = .ok (.obj ms)) (page : String) (maxRedirects : Int) :
    (Site.stocked text page maxRedirects).Holds "s.json" 0 (.ofMembers ms) :=
  ⟨_, _, rfl, Commanding.sourcesOf_encode hplain h, 0, rfl, rfl⟩

def chartsText : String :=
  "\x7b\"bookSourceUrl\":\"http://a\",\"exploreUrl\":\"Hot::/hot&&New::/new/\x7bpage\x7d\"," ++
    "\"ruleSearch\":\x7b\"name\":\"n\",\"bookUrl\":\"u\"\x7d\x7d"

def charts : Source := .ofMembers [("bookSourceUrl", .str "http://a"),
  ("exploreUrl", .str "Hot::/hot&&New::/new/\x7bpage\x7d"),
  ("ruleSearch", .obj [("name", .str "n"), ("bookUrl", .str "u")])]

def chartPage : String := "[\x7b\"n\":\"A\",\"u\":\"/b\"\x7d]"

def chartReply : Reply :=
  ⟨"http://a/new/2", 200, Text.Utf8.encode chartPage.toList, [("content-length", "20")]⟩

def chartsSite (maxRedirects : Int) : Site (Unit × List WireRequest) :=
  .stocked chartsText chartPage maxRedirects

theorem chartsSite_offers (maxRedirects : Int) :
    (chartsSite maxRedirects).Offers "s.json" 0 charts []
    [("Hot", "/hot"), ("New", "/new/\x7bpage\x7d")] where
  held := Site.stocked_holds (by decide) (by cbv) chartPage maxRedirects
  based := by decide
  readable := by cbv
  listed := by rfl
  nonempty := by decide

theorem chartReply_read :
    Page.read (.bytes chartReply.body)
      = .ok (.data (.arr [.obj [("n", .str "A"), ("u", .str "/b")]])) := by
  have hjson : (Body.bytes chartReply.body).looksLikeJson = true := by rfl
  have htext : Json.textOfBytes chartReply.body = .ok chartPage.toList := Json.textOfBytes_utf8 rfl
  have hparse : Json.readDocument chartPage.toList
    = .ok (.arr [.obj [("n", .str "A"), ("u", .str "/b")]]) := by cbv
  rw [Page.read.eq_2 _ hjson, htext]
  dsimp only
  rw [Page.readJson, hparse]

open Fetching (firstRequest) in
theorem chart_admitted : Wire.Admits (firstRequest (chartsSite 5).policy "http://a/new/2" [])
    ⟨"http".toList, [], ['a'], none, "/new/2".toList, none, none⟩ where
  form := by cbv
  headers := by decide
  server := by decide

open Fetching (Settled firstRequest fetchOk settled_fetchOk) in
theorem charts_books :
    Settled ((Commanding.clientOf (chartsSite 5)).explore charts "/new/\x7bpage\x7d" 2)
    (.ok [⟨"A", "", "http://a/b", "", "", "", "", ""⟩]) := by
  have hreply : ∀ state,
    ((chartsSite 5).network (firstRequest (chartsSite 5).policy "http://a/new/2" []) state).1
      = .reply chartReply := fun state =>
    congrArg Prod.fst (chart_admitted.replied (Server.onePage_recorded chartPage _ state))
  have hfetch : Settled (fetchOk (chartsSite 5).network (chartsSite 5).policy "http://a/new/2" [])
      (.ok chartReply) :=
    settled_fetchOk (by decide) (by decide) hreply (by rfl) (by rfl)
  have hload : Settled ((Commanding.clientOf (chartsSite 5)).load charts "http://a/new/2")
      (.ok (chartReply, .data (.arr [.obj [("n", .str "A"), ("u", .str "/b")]]))) := by
    rw [Client.load_eq (chartsSite_offers 5).readable]
    refine hfetch.bind (Settled.bind ?_ (.pure _))
    rw [← chartReply_read]
    exact Client.settled_receive _
  have hu : Url.exploreUrl charts.url "/new/\x7bpage\x7d" 2 = .ok "http://a/new/2" := by rfl
  rw [Client.explore_eq_books (chartsSite_offers 5).based hu]
  exact Client.settled_books hload (by rfl) (by rfl)

open Command (exploreLine) in
/-- Both charts are listed.  The second one is asked for at its second page, which has one
    book, and before the first one there is nothing. -/
theorem charts_load_as_listed :
    ListsAll [("Hot", "/hot"), ("New", "/new/\x7bpage\x7d")] (.start ((), []))
        (runArguments (chartsSite 5) (exploreLine "s.json" 0 1 0) (.start ((), [])))
      ∧ (∃ headers more, (runArguments (chartsSite 5) (exploreLine "s.json" 2 2 0)
        (.start ((), []))).2.network.2 = ⟨"http://a/new/2", headers⟩ :: more)
      ∧ (∃ t : Session _, runArguments (chartsSite 5) (exploreLine "s.json" 2 2 0) (.start ((), []))
        = (.success, t.tell ["[explore] New: 1 book(s)", "  A  [?]  http://a/b"]))
      ∧ (runArguments (chartsSite 5) (exploreLine "s.json" (-1) 1 0) (.start ((), []))).1.code = 1
      ∧ (runArguments (chartsSite 5) (exploreLine "s.json" (-1) 1 0) (.start ((), []))).2.network.2
        = [] := by
  have hnet : (chartsSite 5).network = Wire.overWire (Server.onePage chartPage).recorded := rfl
  obtain ⟨hruns, hlines⟩ := entries_load_as_listed hnet (chartsSite_offers 5)
  have hread : ∀ entry page, Text.ShortInt entry → Text.ShortInt page →
      Command.ofArguments? (exploreLine "s.json" entry page 0)
        = some (.explore "s.json" entry page 0) :=
    fun entry page hentry hpage => (hlines entry page (by decide)).1 ⟨hentry, hpage, by decide⟩
  have hnew : LoadsEntry (chartsSite 5) charts [] "New" "/new/\x7bpage\x7d" 2 "http://a/new/2"
    (.start ((), []))
      (runArguments (chartsSite 5) (exploreLine "s.json" 2 2 0) (.start ((), []))) :=
    (hruns _ 2 2 _ (hread 2 2 (by decide) (by decide))).2.1 1 _ _ _ rfl rfl (by rfl)
  refine ⟨(hruns _ 0 1 _ (hread 0 1 (by decide) (by decide))).1 rfl, ?_, ?_, ?_⟩
  · obtain ⟨more, hmore⟩ := hnew.asks _ (by decide) chart_admitted
    exact ⟨_, more, hmore⟩
  · rcases hcall : (Commanding.clientOf (chartsSite 5)).explore charts "/new/\x7bpage\x7d" 2
      (.start ((), [])) with ⟨result, t⟩
    have hbooks := charts_books (.start ((), []))
    rw [hcall] at hbooks
    obtain rfl : result = _ := hbooks
    exact ⟨t, (hnew.shows _).mpr ⟨_, t, hcall, by rfl⟩⟩
  · have hnone :=
      (hruns _ (-1) 1 (.start ((), [])) (hread _ _ (by decide) (by decide))).2.2 (by decide)
      fun j _ _ _ hj => absurd hj (by omega)
    exact ⟨hnone.1, congrArg Prod.snd hnone.2⟩

/-! ### Entries that are not asked for -/

def schemelessText : String :=
  "\x7b\"bookSourceUrl\":\"example.com\",\"exploreUrl\":\"Hot::/rank\"\x7d"

def schemeless : Source :=
  .ofMembers [("bookSourceUrl", .str "example.com"), ("exploreUrl", .str "Hot::/rank")]

def schemelessSite : Site (Unit × List WireRequest) := .stocked schemelessText chartPage 5

theorem schemelessSite_offers :
    schemelessSite.Offers "s.json" 0 schemeless [] [("Hot", "/rank")] where
  held := Site.stocked_holds (by decide) (by cbv) chartPage 5
  based := by decide
  readable := by cbv
  listed := by rfl
  nonempty := by decide

/-- The address of the source ends with a blank. -/
def untrimmedText : String := "\x7b\"bookSourceUrl\":\"http://a/b \",\"exploreUrl\":\"Hot::#\"\x7d"

def untrimmed : Source :=
  .ofMembers [("bookSourceUrl", .str "http://a/b "), ("exploreUrl", .str "Hot::#")]

def untrimmedSite : Site (Unit × List WireRequest) := .stocked untrimmedText chartPage 5

theorem untrimmedSite_offers : untrimmedSite.Offers "s.json" 0 untrimmed [] [("Hot", "#")] where
  held := Site.stocked_holds (by decide) (by cbv) chartPage 5
  based := by decide
  readable := by cbv
  listed := by rfl
  nonempty := by decide

open Command (exploreLine) in
theorem Site.stocked_loads_first {text page : String} {maxRedirects : Int} {source : Source}
    {title url u : String} {headers entries : List (String × String)}
    (h : (Site.stocked text page maxRedirects).Offers "s.json" 0 source headers
      ((title, url) :: entries)) (hu : Url.exploreUrl source.url url 1 = .ok u) :
    LoadsEntry (.stocked text page maxRedirects) source headers title url 1 u (.start ((), []))
      (runArguments (.stocked text page maxRedirects) (exploreLine "s.json" 1 1 0)
        (.start ((), []))) := by
  have hnet : (Site.stocked text page maxRedirects).network
    = Wire.overWire (Server.onePage page).recorded := rfl
  have hread : Command.ofArguments? (exploreLine "s.json" 1 1 0)
      = some (.explore "s.json" ((0 : Nat) + 1) 1 0) := by
    rw [Command.ofArguments?_exploreLine 1 1 0 (by decide), if_pos (by decide)]
    rfl
  exact loadsEntry_of_listed h hread rfl hnet hu

open Command (exploreLine) in
open Fetching (firstRequest) in
/-- An entry with an address need not be asked for, and one that is need not be asked for
    under just that address.  `/rank` tells no server, a blank at the end is trimmed, and
    where a limit for redirects is below zero there is no request at all.  A number that is
    too long is none: the line is not understood. -/
theorem schemeless_entry_not_asked :
    (schemelessSite.Offers "s.json" 0 schemeless [] [("Hot", "/rank")]
      ∧ Url.exploreUrl schemeless.url "/rank" 1 = .ok "/rank"
      ∧ (runArguments schemelessSite (exploreLine "s.json" 1 1 0) (.start ((), []))).2.network.2
        = [])
    ∧ (untrimmedSite.Offers "s.json" 0 untrimmed [] [("Hot", "#")]
      ∧ Url.exploreUrl untrimmed.url "#" 1 = .ok "http://a/b "
      ∧ ∃ headers more, (runArguments untrimmedSite (exploreLine "s.json" 1 1 0)
        (.start ((), []))).2.network.2 = ⟨"http://a/b", headers⟩ :: more)
    ∧ ((chartsSite (-1)).Offers "s.json" 0 charts [] [("Hot", "/hot"), ("New", "/new/\x7bpage\x7d")]
      ∧ Url.exploreUrl charts.url "/hot" 1 = .ok "http://a/hot"
      ∧ (runArguments (chartsSite (-1)) (exploreLine "s.json" 1 1 0) (.start ((), []))).2.network.2
        = [])
    ∧ (runArguments (chartsSite 5) (exploreLine "s.json" (Nat.pow 10 Text.maxDigits) 1 0)
        (.start ((), []))).1.code = 2 := by
  have hrank : Url.exploreUrl schemeless.url "/rank" 1 = .ok "/rank" := by rfl
  have hblank : Url.exploreUrl untrimmed.url "#" 1 = .ok "http://a/b " := by rfl
  have hhot : Url.exploreUrl charts.url "/hot" 1 = .ok "http://a/hot" := by rfl
  refine ⟨⟨schemelessSite_offers, hrank, ?_⟩, ⟨untrimmedSite_offers, hblank, ?_⟩,
    ⟨chartsSite_offers (-1), hhot, ?_⟩, ?_⟩
  · have hrefused : ¬ ∃ address,
      Wire.Admits (firstRequest schemelessSite.policy "/rank" []) address := by
      rintro ⟨address, hform, -, hserver⟩
      have hrelative : Url.Wire.ofChars "/rank".toList
        = .ok ⟨[], [], [], none, "/rank".toList, none, none⟩ := by cbv
      obtain rfl := Except.ok.inj (hrelative.symm.trans hform)
      exact absurd hserver (by decide)
    have hloads := Site.stocked_loads_first schemelessSite_offers hrank
    exact congrArg Prod.snd (hloads.refuses fun h => hrefused h.2).2
  · have haddress : Url.Wire.ofChars "http://a/b".toList
        = .ok ⟨"http".toList, [], ['a'], none, "/b".toList, none, none⟩ := by cbv
    have hadmits : Wire.Admits (firstRequest untrimmedSite.policy "http://a/b " []) _ :=
      ⟨haddress, by decide, by decide⟩
    have hloads := Site.stocked_loads_first untrimmedSite_offers hblank
    obtain ⟨more, hmore⟩ := hloads.asks _ (by decide) hadmits
    exact ⟨_, more, hmore⟩
  · have hloads := Site.stocked_loads_first (chartsSite_offers (-1)) hhot
    exact congrArg Prod.snd (hloads.refuses fun h => absurd h.1 (by decide)).2
  · have hlong : ¬ Text.ShortInt (Nat.pow 10 Text.maxDigits) := by
      rw [Text.shortInt_iff, Int.natAbs_natCast]
      exact Nat.lt_irrefl _
    rw [runArguments_usage]
    · rfl
    · rw [Command.ofArguments?_exploreLine _ 1 0 (by decide), if_neg fun h => hlong h.1]

end Gleaner
