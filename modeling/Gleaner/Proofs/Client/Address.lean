/-
  Gleaner/Proofs/Client/Address.lean
  ==================================
  **Every address on a page counts.**  A pass over the items of a page goes on when an item
  fails, but the addresses of the records that are kept are resolved after it, all together.
  If each of them resolves, a call returns one record for each record that was kept, in order;
  else it fails, with the fault of the first that does not (`page_needs_every_address`).  What
  does not resolve is a relative address with a malformed authority, or any relative address
  on a page whose own is malformed (`resolves_iff`).
-/
import Gleaner.Proofs.Client.Resolution
import Gleaner.Proofs.Url.Split

namespace Gleaner

variable {σ α β : Type}

/-! ### Work without a fetch -/

namespace Fetching

def Offline (work : Fetching σ α) (x : Except Fault α) : Prop :=
  ∀ s, (work s).2.fetches = s.fetches ∧ (work s).1 = x

theorem offline_pure (a : α) : Offline (pure a : Fetching σ α) (.ok a) := fun _ => ⟨rfl, rfl⟩

theorem offline_throw (e : Fault) : Offline (throw e : Fetching σ α) (.error e) :=
  fun _ => ⟨rfl, rfl⟩

theorem offline_ofResult (x : Except Fault α) : Offline (ofResult x : Fetching σ α) x := by
  cases x with
  | ok a => exact offline_pure a
  | error e => exact offline_throw e

theorem offline_notice (line : String) : Offline (notice line : Fetching σ Unit) (.ok ()) :=
  fun s => ⟨(Routine.happen rfl).fetches s, rfl⟩

theorem Offline.bind {x : Fetching σ α} {k : α → Fetching σ β} {result : Except Fault α}
    {f : α → Except Fault β} (hx : Offline x result)
    (hk : ∀ a, result = .ok a → Offline (k a) (f a)) :
    Offline (x >>= k) (result.bind f) := by
  intro s
  obtain ⟨hlog, hresult⟩ := hx s
  rw [bind_run]
  rcases hrun : x s with ⟨e | a, s'⟩
  · rw [hrun] at hlog hresult
    subst hresult
    exact ⟨hlog, rfl⟩
  · rw [hrun] at hlog hresult
    subst hresult
    obtain ⟨hlog', hresult'⟩ := hk a rfl s'
    exact ⟨hlog'.trans hlog, hresult'⟩

theorem Offline.andThen {x : Fetching σ α} {k : α → Fetching σ β} {a : α} {y : Except Fault β}
    (hx : Offline x (.ok a)) (hk : Offline (k a) y) : Offline (x >>= k) y :=
  Offline.bind (f := fun _ => y) hx fun _ h => by
    cases h
    exact hk

end Fetching

namespace Client

open Fetching (Logs Routine Quiet Offline offline_pure offline_throw offline_ofResult
  offline_notice)

/-! ### Addresses that resolve -/

def Resolves (page found : String) : Prop := ∃ url, resolved page found = .ok url

theorem resolves_iff_not_error {page found : String} :
    Resolves page found ↔ ¬ ∃ e, resolved page found = .error e := by
  unfold Resolves
  cases resolved page found <;> simp

/-- Only a relative address can fail to resolve, if its authority or that of the page is
    malformed. -/
theorem resolves_iff {page found : String} : Resolves page found ↔
    ¬ (Url.isAbsolute (Text.trimChars found.toList) = false ∧ page.toList ≠ []
      ∧ Text.trimChars found.toList ≠ []
      ∧ (Url.IsMalformed page.toList ∨ Url.IsMalformed (Text.trimChars found.toList))) := by
  rw [resolves_iff_not_error, ← Url.full_error_iff, not_iff_not]
  unfold resolved
  by_cases hempty : found = ""
  · subst hempty
    simp [Url.full_error_iff, Text.trimChars, Text.trimBy]
  · rw [if_neg hempty]

/-- The call comes to one record for each that was kept, each with its address resolved, or to
    the fault of the first address that does not resolve. -/
structure OneForEach (page : String) (kept : List α) (address : α → String) (place : α → String → α)
    (x : Except Fault (List α)) : Prop where
  returns : (∃ records, x = .ok records) ↔ ∀ found ∈ kept, Resolves page (address found)
  records : ∀ records, x = .ok records ↔ List.Forall₂ (fun found record =>
    ∃ url, resolved page (address found) = .ok url ∧ place found url = record) kept records
  fault : ∀ e, x = .error e ↔ ∃ front found back, kept = front ++ found :: back
    ∧ (∀ before ∈ front, Resolves page (address before)) ∧ resolved page (address found) = .error e

/-- Resolving all addresses of a page gives one record for each, or the fault of the first
    address that does not resolve. -/
theorem oneForEach_mapM (page : String) (kept : List α) (address : α → String)
    (place : α → String → α) :
    OneForEach page kept address place
      (kept.mapM fun found => (resolved page (address found)).map (place found)) := by
  have hresolves :
      ∀ found, (∃ record, (resolved page (address found)).map (place found) = .ok record)
        ↔ Resolves page (address found) := by
    intro found
    unfold Resolves
    cases resolved page (address found) <;> simp [Except.map]
  refine ⟨?_, fun records => ?_, fun e => ?_⟩
  · rw [exists_mapM_ok]
    simp only [hresolves]
  · rw [mapM_eq_ok]
    simp only [map_eq_ok]
  · rw [mapM_eq_error]
    simp only [hresolves, map_eq_error]

/-! ### What a call makes of a page -/

/-- If the one fetch of a call gave a page, the call comes to what `Φ` says of it. -/
def WhenRead (Φ : FetchCall → Reply → Page → Except Fault β → Prop) (calls : List FetchCall)
    (x : Except Fault β) : Prop :=
  ∀ call reply page, calls = [call] → call.read = .ok (reply, page) → Φ call reply page x

section Calls

variable {c : Client σ} {s : Source} {url : String}
  {Φ : FetchCall → Reply → Page → Except Fault β → Prop}

theorem whenRead_before {x : Fetching σ α} {k : α → Fetching σ β} {Ψ : α → Prop} (hx : Quiet x Ψ)
    (hk : ∀ a, Ψ a → Logs (k a) (WhenRead Φ)) : Logs (x >>= k) (WhenRead Φ) :=
  logs_quiet_bind hx (fun _ _ _ _ hcalls => nomatch hcalls) hk

/-- After the page is loaded nothing more is fetched, and the result is settled. -/
theorem whenRead_load {k : Reply × Page → Fetching σ β} (f : Reply → Page → Except Fault β)
    (hk : ∀ reply page, Offline (k (reply, page)) (f reply page))
    (hf : ∀ call reply page, call.url = url → Φ call reply page (f reply page)) :
    Logs (c.load s url >>= k) (WhenRead Φ) := by
  refine Fetching.logs_bind ((load_reads c s url).mono fun calls x h => ?_)
  -- a load that failed gave no page, and one that did not read what its fetch tells
  rcases h with ⟨rfl, e, rfl⟩ | ⟨call, rfl, hurl, -, hread⟩
  · exact fun call reply page hcalls => nomatch hcalls
  · cases x with
    | error e =>
      rintro call' reply page hcalls hpage
      cases hcalls
      cases (hread _).mpr hpage
    | ok a =>
      obtain ⟨reply, page⟩ := a
      intro session
      obtain ⟨hlog, hresult⟩ := hk reply page session
      refine ⟨[], by rw [hlog, List.append_nil], ?_⟩
      rintro call' reply' page' hcalls hpage
      cases hcalls
      cases (hread _).mpr hpage
      rw [hresult]
      exact hf call reply page hurl

theorem offline_reportSkipped (failures : List (Nat × Fault)) :
    Offline (reportSkipped failures : Fetching σ Unit) (.ok ()) :=
  fun session => ⟨(quiet_reportSkipped failures session).1, settled_reportSkipped failures session⟩

def resolvedBooks (page : String) (kept : List BookEntry) : Except Fault (List BookEntry) :=
  kept.mapM fun book => (resolved page book.url).map fun url => { book with url }

def resolvedChapters (page : String) (kept : List Chapter) : Except Fault (List Chapter) :=
  kept.mapM fun chapter => (resolved page chapter.url).map fun url => { chapter with url }

/-- The books on a page are returned with their addresses resolved. -/
theorem books_whenRead (rules : ListRules) :
    Logs (c.books s url rules) (WhenRead fun _ reply page x =>
    ∀ h, page.books rules = .ok h →
      OneForEach reply.url h.kept (·.url) (fun book url => { book with url }) x) := by
  unfold Client.books
  refine whenRead_load
    (fun reply page => (page.books rules).bind fun h => resolvedBooks reply.url h.kept)
    (fun reply page => ?_) fun call reply page _ h hharvest => ?_
  · refine (offline_ofResult _).bind fun h _ => (offline_reportSkipped _).andThen ?_
    have hlast :
        (resolvedBooks reply.url h.kept).bind Except.ok = resolvedBooks reply.url h.kept := by
      cases resolvedBooks reply.url h.kept <;> rfl
    rw [← hlast]
    exact (offline_ofResult _).bind fun books _ => (offline_notice _).andThen (offline_pure books)
  · rw [hharvest]
    exact oneForEach_mapM reply.url h.kept (·.url) fun book url => { book with url }

theorem search_whenRead (keyword : String) (number : Int) :
    Logs (c.search s keyword number) (WhenRead fun _ reply page x =>
      ∀ h, page.books s.searchRulesInUse.toListRules = .ok h →
        OneForEach reply.url h.kept (·.url) (fun book url => { book with url }) x) := by
  unfold search
  refine whenRead_before quiet_requireBase fun _ _ => ?_
  dsimp only
  by_cases hkeyword : Text.trim keyword = ""
  · rw [if_pos hkeyword]
    exact (Routine.pure []).logs fun session call reply page hcalls => nomatch hcalls
  · rw [if_neg hkeyword]
    by_cases htemplate : Text.trim (s.searchUrl.getD "") = ""
    · rw [if_pos htemplate]
      exact (Routine.throw _).logs fun session call reply page hcalls => nomatch hcalls
    · rw [if_neg htemplate]
      exact whenRead_before (Fetching.quiet_ofResult fun _ _ => trivial) fun url _ =>
        books_whenRead _

theorem explore_whenRead (url : String) (number : Int) :
    Logs (c.explore s url number) (WhenRead fun _ reply page x =>
      ∀ h, page.books s.exploreRulesInUse = .ok h →
        OneForEach reply.url h.kept (·.url) (fun book url => { book with url }) x) := by
  unfold explore
  refine whenRead_before quiet_requireBase fun _ _ => ?_
  exact whenRead_before (Fetching.quiet_ofResult fun _ _ => trivial) fun url _ => books_whenRead _

/-- The chapters on a page are returned with their addresses resolved, and without any
    chapter the call fails. -/
theorem chapters_whenRead (tocUrl : String) :
    Logs (c.chapters s tocUrl) (WhenRead fun call reply page x =>
      ∀ h, page.chapters s.tocRulesInUse = .ok h →
        if h.kept = [] then x = .error (noChapters call.url h.found h.failed)
        else OneForEach reply.url h.kept (·.url) (fun chapter url => { chapter with url }) x) := by
  unfold Client.chapters
  refine whenRead_before quiet_requireBase fun _ _ => ?_
  refine whenRead_before (quiet_requireAddress _) fun _ _ => ?_
  refine whenRead_before (Fetching.quiet_ofResult fun _ _ => trivial) fun url _ => ?_
  refine whenRead_load (fun reply page => (page.chapters s.tocRulesInUse).bind fun h =>
    if h.kept = [] then .error (noChapters url h.found h.failed)
    else resolvedChapters reply.url h.kept)
    (fun reply page => ?_) fun call reply page hurl h hharvest => ?_
  · refine (offline_ofResult _).bind fun h _ => (offline_reportSkipped _).andThen ?_
    by_cases hnone : h.kept = []
    · rw [if_pos hnone, if_pos (by simpa using hnone)]
      exact offline_throw _
    · rw [if_neg hnone, if_neg (by simpa using hnone)]
      by_cases hfailed : h.failed ≠ 0
      · rw [if_pos hfailed]
        exact (offline_notice _).andThen (offline_ofResult _)
      · rw [if_neg hfailed]
        exact offline_ofResult _
  · rw [hharvest, hurl]
    by_cases hnone : h.kept = []
    · rw [if_pos hnone]
      exact if_pos hnone
    · rw [if_neg hnone]
      have hresult : ((Except.ok h : Except Fault (Harvest Chapter)).bind fun h =>
          if h.kept = [] then .error (noChapters url h.found h.failed)
          else resolvedChapters reply.url h.kept) = resolvedChapters reply.url h.kept :=
            if_neg hnone
      rw [hresult]
      exact oneForEach_mapM reply.url h.kept (·.url) fun chapter url => { chapter with url }

end Calls

/-- If the page that a search, an exploration or a call for chapters asked for was read and the
    items on it were gathered, the call returns exactly if the addresses of all records that
    were kept resolve, then with one record for each of them, in order; else it fails with the
    fault of the first that does not.  Chapters fail of their own if none was kept.  An address
    resolves unless it is a relative one with a malformed authority, or relative on a page with
    such an address. -/
theorem page_needs_every_address (c : Client σ) (s : Source) :
    (∀ keyword number, Logs (c.search s keyword number) (WhenRead fun _ reply page x =>
      ∀ h, page.books s.searchRulesInUse.toListRules = .ok h →
        OneForEach reply.url h.kept (·.url) (fun book url => { book with url }) x))
    ∧ (∀ url number, Logs (c.explore s url number) (WhenRead fun _ reply page x =>
      ∀ h, page.books s.exploreRulesInUse = .ok h →
        OneForEach reply.url h.kept (·.url) (fun book url => { book with url }) x))
    ∧ (∀ tocUrl, Logs (c.chapters s tocUrl) (WhenRead fun call reply page x =>
      ∀ h, page.chapters s.tocRulesInUse = .ok h →
        if h.kept = [] then x = .error (noChapters call.url h.found h.failed)
        else OneForEach reply.url h.kept (·.url) (fun chapter url => { chapter with url }) x))
    ∧ ∀ page found, Resolves page found ↔
      ¬ (Url.isAbsolute (Text.trimChars found.toList) = false ∧ page.toList ≠ []
        ∧ Text.trimChars found.toList ≠ []
        ∧ (Url.IsMalformed page.toList ∨ Url.IsMalformed (Text.trimChars found.toList))) :=
  ⟨search_whenRead, explore_whenRead, chapters_whenRead, fun _ _ => resolves_iff⟩

/-! ### Two books on a page -/

def linkSource : Source where
  url := "http://a"
  searchUrl := some "/s"
  searchRules := some { name := some "n", bookUrl := some "u" }

def bookAt (name url : String) : BookEntry := ⟨name, "", url, "", "", "", "", ""⟩

/-- The fetch read a page at `url` that gives these books. -/
def shows (url : String) (books : List BookEntry) (call : FetchCall) : Bool :=
  call.read.toOption.any fun (reply, page) => decide (reply.url = url)
    && (page.books linkSource.searchRulesInUse.toListRules).toOption.any fun h =>
      decide (h.kept = books)

theorem exists_of_shows {url : String} {books : List BookEntry} {calls : List FetchCall}
    (h : calls.map (shows url books) = [true]) : ∃ call reply page harvest, calls = [call]
      ∧ call.read = .ok (reply, page) ∧ reply.url = url
      ∧ page.books linkSource.searchRulesInUse.toListRules = .ok harvest
      ∧ harvest.kept = books := by
  obtain ⟨call, hcalls, hshows⟩ := List.map_eq_singleton_iff.mp h
  obtain ⟨⟨reply, page⟩, hread, hboth⟩ := exists_ok_of_any hshows
  obtain ⟨hurl, hany⟩ := Bool.and_eq_true_iff.mp hboth
  obtain ⟨harvest, hharvest, hkept⟩ := exists_ok_of_any hany
  exact ⟨call, reply, page, harvest, hcalls, hread, of_decide_eq_true hurl, hharvest,
    of_decide_eq_true hkept⟩

def twoBooks : Client Unit where
  network := .mirror "[\x7b\"n\":\"A\",\"u\":\"/b\"\x7d,\x7b\"n\":\"B\",\"u\":\"/c\"\x7d]"
  policy := Task.oneLink.policy

theorem twoBooks_returned : ∃ call reply page h,
    (twoBooks.search linkSource "k" 1 (.start ())).2.fetches = [call]
      ∧ call.read = .ok (reply, page)
      ∧ page.books linkSource.searchRulesInUse.toListRules = .ok h
      ∧ h.kept = [bookAt "A" "/b", bookAt "B" "/c"]
      ∧ ∃ books, (twoBooks.search linkSource "k" 1 (.start ())).1 = .ok books
        ∧ books.length = h.kept.length := by
  obtain ⟨calls, hcalls, hfinds⟩ :=
    (page_needs_every_address twoBooks linkSource).1 "k" 1 (.start ())
  have hshows : (twoBooks.search linkSource "k" 1 (.start ())).2.fetches.map
      (shows "http://a/s" [bookAt "A" "/b", bookAt "B" "/c"]) = [true] := by
    decide +kernel
  obtain ⟨call, reply, page, h, hcall, hread, hurl, hharvest, hkept⟩ := exists_of_shows hshows
  have hone := hfinds call reply page (hcalls.symm.trans hcall) hread h hharvest
  have hresolve : ∀ found ∈ h.kept, Resolves reply.url found.url := by
    rw [hkept, hurl]
    intro found hmem
    simp only [List.mem_cons, List.not_mem_nil, or_false] at hmem
    rcases hmem with rfl | rfl
    · exact ⟨"http://a/b", by rfl⟩
    · exact ⟨"http://a/c", by rfl⟩
  obtain ⟨books, hbooks⟩ := hone.returns.mpr hresolve
  exact ⟨call, reply, page, h, hcall, hread, hharvest, hkept, books, hbooks,
    ((hone.records books).mp hbooks).length_eq.symm⟩

/-- Everywhere a book, and another one whose address opens a bracket. -/
def openBracket : Client Unit where
  network := .mirror "[\x7b\"n\":\"A\",\"u\":\"/b\"\x7d,\x7b\"n\":\"B\",\"u\":\"//[\"\x7d]"
  policy := Task.oneLink.policy

/-- The address that opens a bracket costs the other book as well, which would resolve. -/
theorem openBracket_costs_all : ∃ call reply page h,
    (openBracket.search linkSource "k" 1 (.start ())).2.fetches = [call]
      ∧ call.read = .ok (reply, page)
      ∧ page.books linkSource.searchRulesInUse.toListRules = .ok h
      ∧ h.kept = [bookAt "A" "/b", bookAt "B" "//["]
      ∧ Resolves reply.url "/b" ∧ ¬ Resolves reply.url "//["
      ∧ (openBracket.search linkSource "k" 1 (.start ())).1
        = .error (.badValue "Invalid IPv6 URL") := by
  have hshows : (openBracket.search linkSource "k" 1 (.start ())).2.fetches.map
      (shows "http://a/s" [bookAt "A" "/b", bookAt "B" "//["]) = [true] := by
    decide +kernel
  obtain ⟨call, reply, page, h, hcall, hread, hurl, hharvest, hkept⟩ := exists_of_shows hshows
  have hbracket : resolved "http://a/s" "//[" = .error (.badValue "Invalid IPv6 URL") := by rfl
  refine ⟨call, reply, page, h, hcall, hread, hharvest, hkept, ?_, ?_,
    eq_error_of_decide (by decide +kernel)⟩
  · rw [hurl]
    exact ⟨"http://a/b", by rfl⟩
  · rw [hurl, resolves_iff_not_error, not_not]
    exact ⟨_, hbracket⟩

end Client

end Gleaner
