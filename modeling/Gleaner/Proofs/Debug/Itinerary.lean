/-
  Gleaner/Proofs/Debug/Itinerary.lean
  ===================================
  **The fetches of a run, by stage.**  A run makes at most one fetch for a stage.  Each
  goes to an address that the page before it gives, resolved against the address which
  answered for that page (`Itinerary.Follows`), and what a completed run has found is what
  its rules read from these pages (`Itinerary.Yields`).

  The proof carries an itinerary along a course: `LeadsTo` holds at a position,
  `ArrivesAt` once its page is there.
-/
import Gleaner.Proofs.Debug.Course

namespace Gleaner

variable {σ : Type}

/-! ### What is read from the pages of fetches -/

namespace FetchCall

def booksAt (s : Source) (c : FetchCall) : Except Fault (List BookEntry × String) :=
  c.read.bind fun x => (x.2.books s.searchRulesInUse.toListRules).map fun h => (h.kept, x.1.url)

def detailAt (s : Source) (c : FetchCall) : Except Fault (BookDetail × String) :=
  c.read.bind fun x => (x.2.detail s.detailRulesInUse).map fun d => (d, x.1.url)

def chaptersAt (s : Source) (c : FetchCall) : Except Fault (List Chapter × String) :=
  c.read.bind fun x => (x.2.chapters s.tocRulesInUse).map fun h => (h.kept, x.1.url)

def textAt (s : Source) (c : FetchCall) : Except Fault ChapterText :=
  c.read.bind fun x => x.2.chapterText s.contentRulesInUse

variable {s : Source} {c : FetchCall} {page : String}

theorem booksAt_eq_ok {books : List BookEntry} (h : c.booksAt s = .ok (books, page)) :
    ∃ reply pg harvest, c.read = .ok (reply, pg)
      ∧ pg.books s.searchRulesInUse.toListRules = .ok harvest ∧ harvest.kept = books
      ∧ reply.url = page := by
  obtain ⟨⟨reply, pg⟩, hread, hmap⟩ := bind_eq_ok.mp h
  obtain ⟨harvest, hharvest, hpair⟩ := map_eq_ok.mp hmap
  cases hpair
  exact ⟨reply, pg, harvest, hread, hharvest, rfl, rfl⟩

theorem detailAt_eq_ok {d : BookDetail} (h : c.detailAt s = .ok (d, page)) :
    ∃ reply pg, c.read = .ok (reply, pg) ∧ pg.detail s.detailRulesInUse = .ok d
      ∧ reply.url = page := by
  obtain ⟨⟨reply, pg⟩, hread, hmap⟩ := bind_eq_ok.mp h
  obtain ⟨d', hd, hpair⟩ := map_eq_ok.mp hmap
  cases hpair
  exact ⟨reply, pg, hread, hd, rfl⟩

theorem chaptersAt_eq_ok {chapters : List Chapter} (h : c.chaptersAt s = .ok (chapters, page)) :
    ∃ reply pg harvest, c.read = .ok (reply, pg)
      ∧ pg.chapters s.tocRulesInUse = .ok harvest ∧ harvest.kept = chapters
      ∧ reply.url = page := by
  obtain ⟨⟨reply, pg⟩, hread, hmap⟩ := bind_eq_ok.mp h
  obtain ⟨harvest, hharvest, hpair⟩ := map_eq_ok.mp hmap
  cases hpair
  exact ⟨reply, pg, harvest, hread, hharvest, rfl, rfl⟩

end FetchCall

/-! ### Itineraries -/

/-- The fetch that a run makes for each stage, if it makes one. -/
structure Itinerary where
  search : Option FetchCall
  detail : Option FetchCall
  toc : Option FetchCall
  content : Option FetchCall

namespace Itinerary

def empty : Itinerary := ⟨none, none, none, none⟩

def calls (i : Itinerary) : List FetchCall :=
  i.search.toList ++ i.detail.toList ++ i.toc.toList ++ i.content.toList

/-- The fetch on whose page the chapters are: that for the table of contents, or that for
    the details if these name no table of contents. -/
def ChaptersFrom (s : Source) (i : Itinerary) (c : FetchCall) : Prop :=
  ∃ c₀ d page, i.detail = some c₀ ∧ c₀.detailAt s = .ok (d, page)
    ∧ if d.tocUrl = "" then i.toc = none ∧ c = c₀ else i.toc = some c

/-- The chapters are on one page. -/
theorem ChaptersFrom.unique {s : Source} {i : Itinerary} {c c' : FetchCall} (h : i.ChaptersFrom s c)
    (h' : i.ChaptersFrom s c') : c = c' := by
  obtain ⟨c₀, d, page, hc₀, hd, hc⟩ := h
  obtain ⟨c₀', d', page', hc₀', hd', hc'⟩ := h'
  rw [hc₀] at hc₀'
  cases hc₀'
  rw [hd] at hd'
  cases hd'
  by_cases hempty : d.tocUrl = ""
  · rw [if_pos hempty] at hc hc'
    rw [hc.2, hc'.2]
  · rw [if_neg hempty] at hc hc'
    rw [hc] at hc'
    exact Option.some.inj hc'

/-- The fetches go where the pages before them lead. -/
structure Follows (t : Task) (keyword : String) (i : Itinerary) : Prop where
  headers : ∀ c ∈ i.calls, t.source.requestHeaders = .ok c.headers
  search : ∀ c, i.search = some c →
    Url.searchUrl t.source.url (Running.searchTemplate t.source) keyword 1 = .ok c.url
  /-- Without a search the keyword is the address of the details. -/
  direct : ∀ c, i.detail = some c → i.search = none → c.url = keyword
  detail : ∀ c c₀, i.detail = some c → i.search = some c₀ →
    ∃ b more page, c₀.booksAt t.source = .ok (b :: more, page) ∧ b.url ≠ ""
      ∧ Url.full page b.url = .ok c.url
  toc : ∀ c, i.toc = some c → ∃ c₀ d page, i.detail = some c₀ ∧ c₀.detailAt t.source = .ok (d, page)
    ∧ d.tocUrl ≠ "" ∧ Url.full page d.tocUrl = .ok c.url
  content : ∀ c, i.content = some c → ∃ c₀ chapter more page, i.ChaptersFrom t.source c₀
    ∧ c₀.chaptersAt t.source = .ok (chapter :: more, page) ∧ chapter.url ≠ ""
    ∧ Url.full page chapter.url = .ok c.url

/-- The books are those on the page of the search; without a search there are none. -/
def YieldsBooks (s : Source) (i : Itinerary) (f : Findings) : Prop :=
  (i.search = none → f.search = [])
    ∧ ∀ c, i.search = some c → ∃ page, c.booksAt s = .ok (f.search, page)

def YieldsDetail (s : Source) (i : Itinerary) (f : Findings) : Prop :=
  ∃ c d page, i.detail = some c ∧ c.detailAt s = .ok (d, page) ∧ f.detail = some d

def YieldsChapters (s : Source) (i : Itinerary) (f : Findings) : Prop :=
  ∃ c page, i.ChaptersFrom s c ∧ c.chaptersAt s = .ok (f.chapters, page)

def YieldsText (s : Source) (i : Itinerary) (f : Findings) : Prop :=
  ∃ c text, i.content = some c ∧ c.textAt s = .ok text ∧ f.content = some text

/-- What is found is what the rules read from the pages. -/
structure Yields (s : Source) (i : Itinerary) (f : Findings) : Prop where
  books : i.YieldsBooks s f
  detail : i.YieldsDetail s f
  chapters : i.YieldsChapters s f
  text : i.YieldsText s f

/-! ### Carrying an itinerary along a course -/

/-- The fetches so far lead to a position, and gave what has been found. -/
inductive LeadsTo (t : Task) (keyword : String) : Itinerary → Findings → Position → Prop
  | search (habsolute : Url.isAbsolute keyword.toList = false) :
      LeadsTo t keyword empty .none (.search keyword)
  | direct (habsolute : Url.isAbsolute keyword.toList = true) :
      LeadsTo t keyword empty .none (.detail none keyword)
  | detail {c : FetchCall} {b : BookEntry} {more : List BookEntry} {page : String} {f : Findings}
      (habsolute : Url.isAbsolute keyword.toList = false)
      (hbooks : c.booksAt t.source = .ok (b :: more, page)) (hne : b.url ≠ "")
      (hf : f.search = b :: more) :
      LeadsTo t keyword ⟨some c, none, none, none⟩ f (.detail (some page) b.url)
  | toc {i : Itinerary} {c : FetchCall} {d : BookDetail} {reply : Reply} {page : Page}
      {f : Findings}
      (hsearch : i.search = none ↔ Url.isAbsolute keyword.toList = true)
      (hbooks : i.YieldsBooks t.source f) (hc : i.detail = some c)
      (hread : c.read = .ok (reply, page)) (hd : c.detailAt t.source = .ok (d, reply.url))
      (hf : f.detail = some d) (htoc : i.toc = none) (hcontent : i.content = none) :
      LeadsTo t keyword i f (.toc d reply page)
  | text {i : Itinerary} {c : FetchCall} {chapter : Chapter} {more : List Chapter} {page : String}
      {f : Findings} (hsearch : i.search = none ↔ Url.isAbsolute keyword.toList = true)
      (hbooks : i.YieldsBooks t.source f) (hdetail : i.YieldsDetail t.source f)
      (hc : i.ChaptersFrom t.source c)
      (hchapters : c.chaptersAt t.source = .ok (chapter :: more, page)) (hne : chapter.url ≠ "")
      (hf : f.chapters = chapter :: more) (hcontent : i.content = none) :
      LeadsTo t keyword i f (.text page chapter.url)

inductive ArrivesAt (t : Task) (keyword : String) :
    Itinerary → Findings → Except Fault (Reply × Page) → Position → Prop
  | search {c : FetchCall} {f : Findings} {kw : String}
      (habsolute : Url.isAbsolute keyword.toList = false) :
      ArrivesAt t keyword ⟨some c, none, none, none⟩ f c.read (.search kw)
  | detail {i : Itinerary} {c : FetchCall} {f : Findings} {base : Option String} {url : String}
      (hsearch : i.search = none ↔ Url.isAbsolute keyword.toList = true)
      (hbooks : i.YieldsBooks t.source f) (hc : i.detail = some c) (htoc : i.toc = none)
      (hcontent : i.content = none) : ArrivesAt t keyword i f c.read (.detail base url)
  | toc {i : Itinerary} {c : FetchCall} {f : Findings} {d : BookDetail} {reply : Reply}
      {page : Page}
      (hsearch : i.search = none ↔ Url.isAbsolute keyword.toList = true)
      (hbooks : i.YieldsBooks t.source f) (hdetail : i.YieldsDetail t.source f)
      (hc : i.ChaptersFrom t.source c) (hcontent : i.content = none) :
      ArrivesAt t keyword i f c.read (.toc d reply page)
  | text {i : Itinerary} {c : FetchCall} {f : Findings} {page first : String}
      (hsearch : i.search = none ↔ Url.isAbsolute keyword.toList = true)
      (hbooks : i.YieldsBooks t.source f) (hdetail : i.YieldsDetail t.source f)
      (hchapters : i.YieldsChapters t.source f) (hc : i.content = some c) :
      ArrivesAt t keyword i f c.read (.text page first)

theorem LeadsTo.search_iff {t : Task} {keyword : String} {i : Itinerary} {f : Findings}
    {p : Position} (h : i.LeadsTo t keyword f p) (hp : p.stage ≠ .search) :
    i.search = none ↔ Url.isAbsolute keyword.toList = true := by
  cases h with
  | search habsolute => exact absurd rfl hp
  | direct habsolute => simp [empty, habsolute]
  | detail habsolute hbooks hne hf => simp [habsolute]
  | toc hsearch hbooks hc hread hd hf htoc hcontent => exact hsearch
  | text hsearch hbooks hdetail hc hchapters hne hf hcontent => exact hsearch

theorem ArrivesAt.search_iff {t : Task} {keyword : String} {i : Itinerary} {f : Findings}
    {x : Except Fault (Reply × Page)} {p : Position} (h : i.ArrivesAt t keyword f x p) :
    i.search = none ↔ Url.isAbsolute keyword.toList = true := by
  cases h with
  | search habsolute => simp [habsolute]
  | detail hsearch _ _ _ _ => exact hsearch
  | toc hsearch _ _ _ _ => exact hsearch
  | text hsearch _ _ _ _ => exact hsearch

theorem leadsTo_start (t : Task) (keyword : String) :
    empty.LeadsTo t keyword .none (.start keyword) := by
  unfold Position.start
  cases h : Url.isAbsolute keyword.toList with
  | true => exact .direct h
  | false => exact .search h

/-- What a stage makes of an itinerary that has arrived at its page. -/
def Result (t : Task) (keyword : String) (i : Itinerary) (f : Findings) : Lead → Prop
  | .to q => i.LeadsTo t keyword f q
  | .nowhere => True
  | .home => i.Yields t.source f

/-- What a stage reads from the page it arrived at continues the itinerary as its lead says;
    one case for each position. -/
theorem ArrivesAt.yield {t : Task} {keyword : String} {i : Itinerary} {f f' : Findings}
    {x : Reply × Page} {p : Position} {lead : Lead} (h : i.ArrivesAt t keyword f (.ok x) p)
    (hx : p.yield t f x = .ok (f', lead)) : i.Result t keyword f' lead := by
  generalize hread : (Except.ok x : Except Fault (Reply × Page)) = y at h
  cases h with
  | @search c f kw habsolute =>
    simp only [Position.yield, map_eq_ok] at hx
    obtain ⟨books, hb, hlead⟩ := hx
    cases hlead
    rcases Position.leadTo_cases (·.url) books.kept fun first => .detail (some x.1.url) first with
      ⟨b, more, hkept, hne, hto⟩ | ⟨-, hto⟩
    · rw [hto]
      refine .detail habsolute ?_ hne hkept
      simp only [FetchCall.booksAt, ← hread, Except.bind, hb, Except.map, hkept]
    · rw [hto]
      exact trivial
  | @detail i c f base url hsearch hbooks hc htoc hcontent =>
    simp only [Position.yield, map_eq_ok] at hx
    obtain ⟨d, hd, hlead⟩ := hx
    cases hlead
    refine .toc hsearch hbooks hc hread.symm ?_ rfl htoc hcontent
    simp only [FetchCall.detailAt, ← hread, Except.bind, hd, Except.map]
  | @toc i c f d reply page hsearch hbooks hdetail hc hcontent =>
    simp only [Position.yield, map_eq_ok] at hx
    obtain ⟨chapters, hh, hlead⟩ := hx
    cases hlead
    rcases Position.leadTo_cases (·.url) chapters.kept fun first => .text x.1.url first with
      ⟨ch, more, hkept, hne, hto⟩ | ⟨-, hto⟩
    · rw [hto]
      refine .text hsearch hbooks hdetail hc ?_ hne hkept hcontent
      simp only [FetchCall.chaptersAt, ← hread, Except.bind, hh, Except.map, hkept]
    · rw [hto]
      exact trivial
  | @text i c f page first hsearch hbooks hdetail hchapters hc =>
    simp only [Position.yield, map_eq_ok] at hx
    obtain ⟨text, ht, hlead⟩ := hx
    cases hlead
    refine ⟨hbooks, hdetail, hchapters, c, text, hc, ?_, rfl⟩
    simp only [FetchCall.textAt, ← hread, Except.bind, ht]

/-! ### One fetch more -/

theorem follows_empty (t : Task) (keyword : String) : empty.Follows t keyword where
  headers := by simp [calls, empty]
  search := by simp [empty]
  direct := by simp [empty]
  detail := by simp [empty]
  toc := by simp [empty]
  content := by simp [empty]

theorem follows_search {t : Task} {keyword : String} {c : FetchCall}
    (hheaders : t.source.requestHeaders = .ok c.headers)
    (hurl : Url.searchUrl t.source.url (Running.searchTemplate t.source) keyword 1 = .ok c.url) :
    Follows t keyword ⟨some c, none, none, none⟩ where
  headers := by simpa [calls] using hheaders
  search := by
    intro c' hc'
    cases hc'
    exact hurl
  direct := by simp
  detail := by simp
  toc := by simp
  content := by simp

theorem follows_direct {t : Task} {keyword : String} {c : FetchCall}
    (hheaders : t.source.requestHeaders = .ok c.headers) (hurl : c.url = keyword) :
    Follows t keyword ⟨none, some c, none, none⟩ where
  headers := by simpa [calls] using hheaders
  search := by simp
  direct := by
    intro c' hc' _
    cases hc'
    exact hurl
  detail := by simp
  toc := by simp
  content := by simp

/-- A detail page that the first book leads to may follow a search. -/
theorem follows_detail {t : Task} {keyword : String} {c c₀ : FetchCall} {b : BookEntry}
    {more : List BookEntry} {page : String}
    (h : Follows t keyword ⟨some c₀, none, none, none⟩)
    (hheaders : t.source.requestHeaders = .ok c.headers)
    (hbooks : c₀.booksAt t.source = .ok (b :: more, page)) (hne : b.url ≠ "")
    (hurl : Url.full page b.url = .ok c.url) :
    Follows t keyword ⟨some c₀, some c, none, none⟩ where
  headers := by
    intro c' hc'
    have hmem : c' = c₀ ∨ c' = c := by simpa [calls] using hc'
    rcases hmem with rfl | rfl
    · exact h.headers c' (List.mem_singleton.mpr rfl)
    · exact hheaders
  search := h.search
  direct := by simp
  detail := by
    intro c' c₀' hc' hc₀'
    cases hc'
    cases hc₀'
    exact ⟨b, more, page, hbooks, hne, hurl⟩
  toc := by simp
  content := by simp

theorem calls_toc {i : Itinerary} (htoc : i.toc = none) (hcontent : i.content = none)
    (c : FetchCall) : ({ i with toc := some c } : Itinerary).calls = i.calls ++ [c] := by
  simp [calls, htoc, hcontent]

theorem calls_content {i : Itinerary} (hcontent : i.content = none) (c : FetchCall) :
    ({ i with content := some c } : Itinerary).calls = i.calls ++ [c] := by
  simp [calls, hcontent]

theorem follows_toc {t : Task} {keyword : String} {i : Itinerary} {c c₀ : FetchCall}
    {d : BookDetail} {page : String} (h : i.Follows t keyword) (htoc : i.toc = none)
    (hcontent : i.content = none) (hheaders : t.source.requestHeaders = .ok c.headers)
    (hc₀ : i.detail = some c₀) (hd : c₀.detailAt t.source = .ok (d, page)) (hne : d.tocUrl ≠ "")
    (hurl : Url.full page d.tocUrl = .ok c.url) :
    Follows t keyword { i with toc := some c } where
  headers := by
    intro c' hc'
    rw [calls_toc htoc hcontent] at hc'
    rcases List.mem_append.mp hc' with hc' | hc'
    · exact h.headers c' hc'
    · rwa [List.mem_singleton.mp hc']
  search := h.search
  direct := h.direct
  detail := h.detail
  toc := by
    intro c' hc'
    cases hc'
    exact ⟨c₀, d, page, hc₀, hd, hne, hurl⟩
  content := by simp [hcontent]

theorem follows_content {t : Task} {keyword : String} {i : Itinerary} {c c₀ : FetchCall}
    {chapter : Chapter} {more : List Chapter} {page : String} (h : i.Follows t keyword)
    (hcontent : i.content = none) (hheaders : t.source.requestHeaders = .ok c.headers)
    (hc₀ : i.ChaptersFrom t.source c₀)
    (hchapters : c₀.chaptersAt t.source = .ok (chapter :: more, page)) (hne : chapter.url ≠ "")
    (hurl : Url.full page chapter.url = .ok c.url) :
    Follows t keyword { i with content := some c } where
  headers := by
    intro c' hc'
    rw [calls_content hcontent] at hc'
    rcases List.mem_append.mp hc' with hc' | hc'
    · exact h.headers c' hc'
    · rwa [List.mem_singleton.mp hc']
  search := h.search
  direct := h.direct
  detail := h.detail
  toc := h.toc
  content := by
    intro c' hc'
    cases hc'
    exact ⟨c₀, chapter, more, page, hc₀, hchapters, hne, hurl⟩

/-- Going to the page of a position adds its fetch to an itinerary, unless the page is at
    hand. -/
theorem LeadsTo.arrives {t : Task} {keyword : String} {i : Itinerary} {f : Findings} {p : Position}
    {cs : List FetchCall} {x : Except Fault (Reply × Page)} (hi : i.LeadsTo t keyword f p)
    (hfollows : i.Follows t keyword) (h : Arrives t p cs x)
    (hx : ∀ e, x = .error e → e.endsStage = true) :
    ∃ j : Itinerary, j.calls = i.calls ++ cs ∧ j.Follows t keyword
      ∧ j.ArrivesAt t keyword f x p := by
  rcases h.made hx with ⟨d, reply, page, rfl, htocUrl, rfl, rfl⟩ | ⟨c, rfl, haddress, hheaders, rfl⟩
  · cases hi with
    | @toc i c d reply page f hsearch hbooks hc hread hd hf htoc hcontent =>
      refine ⟨i, (List.append_nil _).symm, hfollows, ?_⟩
      rw [← hread]
      refine .toc hsearch hbooks ⟨c, d, reply.url, hc, hd, hf⟩
        ⟨c, d, reply.url, hc, hd, ?_⟩ hcontent
      rw [if_pos htocUrl]
      exact ⟨htoc, rfl⟩
  · cases hi with
    | search habsolute =>
      simp only [Position.address, map_eq_ok] at haddress
      obtain ⟨url, hurl, hsome⟩ := haddress
      cases hsome
      exact ⟨⟨some c, none, none, none⟩, rfl, follows_search hheaders hurl, .search habsolute⟩
    | direct habsolute =>
      have hurl : c.url = keyword := by
        simp only [Position.address, Except.ok.injEq, Option.some.injEq] at haddress
        exact haddress.symm
      refine ⟨⟨none, some c, none, none⟩, rfl, follows_direct hheaders hurl, ?_⟩
      exact .detail (by simp [habsolute]) ⟨fun _ => rfl, by simp⟩ rfl rfl rfl
    | @detail c₀ b more page f habsolute hbooks hne hf =>
      simp only [Position.address, map_eq_ok] at haddress
      obtain ⟨url, hurl, hsome⟩ := haddress
      cases hsome
      refine ⟨⟨some c₀, some c, none, none⟩, rfl,
        follows_detail hfollows hheaders hbooks hne hurl, ?_⟩
      refine .detail (by simp [habsolute]) ⟨by simp, ?_⟩ rfl rfl rfl
      intro c' hc'
      cases hc'
      exact ⟨page, by rw [hf]; exact hbooks⟩
    | @toc i c₀ d reply page f hsearch hbooks hc₀ hread hd hf htoc hcontent =>
      have hne : d.tocUrl ≠ "" := by
        intro htocUrl
        simp [Position.address, htocUrl] at haddress
      simp only [Position.address, if_neg hne, map_eq_ok] at haddress
      obtain ⟨url, hurl, hsome⟩ := haddress
      cases hsome
      refine ⟨{ i with toc := some c }, calls_toc htoc hcontent c,
        follows_toc hfollows htoc hcontent hheaders hc₀ hd hne hurl, ?_⟩
      refine .toc hsearch hbooks ⟨c₀, d, reply.url, hc₀, hd, hf⟩
        ⟨c₀, d, reply.url, hc₀, hd, ?_⟩ hcontent
      rw [if_neg hne]
    | @text i c₀ chapter more page f hsearch hbooks hdetail hc₀ hchapters hne hf hcontent =>
      simp only [Position.address, map_eq_ok] at haddress
      obtain ⟨url, hurl, hsome⟩ := haddress
      cases hsome
      refine ⟨{ i with content := some c }, calls_content hcontent c,
        follows_content hfollows hcontent hheaders hc₀ hchapters hne hurl, ?_⟩
      exact .text hsearch hbooks hdetail ⟨c₀, page, hc₀, by rw [hf]; exact hchapters⟩ rfl

end Itinerary

/-! ### Whole runs -/

/-- A course that comes to a report makes the fetches of an itinerary; at its end, what is
    found is what was read. -/
theorem Course.itinerary {t : Task} {keyword : String} {p : Position} {f f' : Findings}
    {cs : List FetchCall} {u : Upshot} {ending : Ending} (h : Course t p f cs f' u)
    (hu : u.ending = .ok ending) {i : Itinerary} (hi : i.LeadsTo t keyword f p)
    (hfollows : i.Follows t keyword) :
    ∃ j : Itinerary, j.calls = i.calls ++ cs ∧ j.Follows t keyword
      ∧ (j.search = none ↔ Url.isAbsolute keyword.toList = true)
      ∧ (u = .home → j.Yields t.source f') := by
  induction h generalizing i with
  | stopped hp =>
    exact ⟨i, (List.append_nil _).symm, hfollows, hi.search_iff hp, fun hhome => nomatch hhome⟩
  | @failed p f cs x e hx he =>
    have hends : ∀ e', x = .error e' → e'.endsStage = true := by
      rintro e' rfl
      cases he
      exact Upshot.endsStage_of_ending hu
    obtain ⟨j, hcalls, hj, harrives⟩ := hi.arrives hfollows hx hends
    exact ⟨j, hcalls, hj, harrives.search_iff, fun hhome => nomatch hhome⟩
  | stuck hx hlead =>
    obtain ⟨j, hcalls, hj, harrives⟩ := hi.arrives hfollows hx (fun _ he => nomatch he)
    exact ⟨j, hcalls, hj, harrives.search_iff, fun hhome => nomatch hhome⟩
  | home hx hlead =>
    obtain ⟨j, hcalls, hj, harrives⟩ := hi.arrives hfollows hx (fun _ he => nomatch he)
    exact ⟨j, hcalls, hj, harrives.search_iff, fun _ => harrives.yield hlead⟩
  | onward hx hlead hq ih =>
    obtain ⟨j, hcalls, hj, harrives⟩ := hi.arrives hfollows hx (fun _ he => nomatch he)
    obtain ⟨k, hcalls', hk, hsearch, hyields⟩ := ih hu (harrives.yield hlead) hj
    exact ⟨k, by rw [hcalls', hcalls, List.append_assoc], hk, hsearch, hyields⟩

/-- A run is complete only if its course came home. -/
theorem Upshot.home_of_completed {u : Upshot} {f : Findings} {ending : Ending} {lines : List String}
    (hu : u.ending = .ok ending) (h : (Report.mk f ending lines).completed = true) : u = .home := by
  cases u with
  | stopped => cases hu; simp [Report.completed, Report.stopped] at h
  | failed stage e =>
    simp only [Upshot.ending, Upshot.endsStage_of_ending hu, if_true] at hu
    cases hu
    simp [Report.completed, Report.abortedAt?] at h
  | stuck stage => cases hu; simp [Report.completed, Report.abortedAt?] at h
  | home => rfl

/-- Every run that gives a report and was not refused makes the fetches of an itinerary,
    in the order of the stages: each asks with the headers of the source for the address
    that the page before it gives.  Only a keyword that is an address saves the search.
    What a completed run reports is what the rules read from these pages. -/
theorem run_follows_itinerary (env : Surroundings σ) (t : Task) (keyword : String) (d : Debugger σ)
    (report : Report) (hidle : d.running = false)
    (h : (d.run env t keyword).result = .ok report) :
    ∃ i : Itinerary,
      (d.run env t keyword).debugger.session.fetches = d.session.fetches ++ i.calls
      ∧ i.Follows t (Text.trim keyword)
      ∧ (i.search = none ↔ Url.isAbsolute (Text.trim keyword).toList = true)
      ∧ (report.completed = true → i.Yields t.source report.findings) := by
  obtain ⟨f, u, lines, hfetches, -, hcourse, hresult⟩ := Debugger.run_course env t keyword hidle
  rw [hresult] at h
  obtain ⟨ending, hending, rfl⟩ := map_eq_ok.mp h
  have hstart := Itinerary.leadsTo_start t (Text.trim keyword)
  obtain ⟨i, hcalls, hfollows, hsearch, hyields⟩ :=
    hcourse.itinerary hending hstart (Itinerary.follows_empty t _)
  refine ⟨i, ?_, hfollows, hsearch, ?_⟩
  · rw [hfetches, hcalls]
    rfl
  · intro hcompleted
    exact hyields (Upshot.home_of_completed hending hcompleted)

theorem oneLink_follows_itinerary : ∃ report,
    ((Debugger.start ()).run .oneLink .oneLink "k").result = .ok report
      ∧ ∃ i : Itinerary, i.Follows .oneLink (Text.trim "k")
        ∧ i.Yields Task.oneLink.source report.findings := by
  obtain ⟨report, h, hcompleted⟩ := oneLink_completes
  obtain ⟨i, -, hfollows, -, hyields⟩ := run_follows_itinerary _ _ _ _ report rfl h
  exact ⟨report, h, i, hfollows, hyields hcompleted⟩

end Gleaner
