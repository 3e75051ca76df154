/-
  Gleaner/Proofs/Client/Agreement.lean
  ====================================
  **A client agrees with a run.**  On a stationary site a client that searches, reads the
  details of the first book, its chapters and the text of the first chapter finds what a
  completed run has found (`client_agrees`).  The run resolves an address when it follows
  it, against its page; the client does so at once, and then again against the base of the
  source.  Where there is no address of a table of contents the run keeps the page of the
  details, and the client fetches the address that answered for it.

  Both come to the same pages because an absolute address resolves to itself and because
  what a fetch comes to depends on the trimmed address alone (`Reaches`).
-/
import Gleaner.Client
import Gleaner.Proofs.Debug.Itinerary
import Gleaner.Proofs.Fetch.Stationary
import Gleaner.Proofs.Url.Absolute

namespace Gleaner

variable {σ τ α β : Type}

open Fetching (Settled settledFetch)

/-! ### Pages of a site -/

/-- On the site the address leads to this reply, which holds this page. -/
structure Reaches (answer : String → Outcome) (limit : Int) (url : String) (reply : Reply)
    (page : Page) : Prop where
  fetched : settledFetch answer limit url = .ok reply
  isOk : reply.isOk = true
  read : Page.read (.bytes reply.body) = .ok page

namespace Reaches

variable {answer : String → Outcome} {limit : Int} {url : String} {reply : Reply} {page : Page}

theorem trim (h : Reaches answer limit url reply page) :
    Reaches answer limit (Text.trim url) reply page where
  fetched := (Fetching.settledFetch_trim answer limit url).trans h.fetched
  isOk := h.isOk
  read := h.read

theorem own (hown : ∀ url reply, answer url = .reply reply → reply.url = url)
    (h : Reaches answer limit url reply page) (habsolute : Url.isAbsolute reply.url.toList = true)
    (htrim : Text.trim reply.url = reply.url) : Reaches answer limit reply.url reply page where
  fetched := by
    refine Fetching.settledFetch_own hown h.fetched htrim ?_
    intro hempty
    rw [hempty] at habsolute
    exact absurd habsolute (by decide)
  isOk := h.isOk
  read := h.read

end Reaches

namespace FetchCall

theorem read_eq_ok {c : FetchCall} {reply : Reply} {page : Page} (h : c.read = .ok (reply, page)) :
    c.result = .ok reply ∧ reply.isOk = true ∧ Page.read (.bytes reply.body) = .ok page := by
  cases hc : c.result with
  | error e =>
    rw [read_of_error hc] at h
    cases h
  | ok reply' =>
    by_cases hok : reply'.isOk = true
    · rw [read_of_isOk hc hok] at h
      obtain ⟨page', hpage, hpair⟩ := map_eq_ok.mp h
      cases hpair
      exact ⟨rfl, hok, hpage⟩
    · rw [read_of_not_isOk hc hok] at h
      cases h

theorem reaches {net : Network σ} {answer : String → Outcome} {p : FetchPolicy} {c : FetchCall}
    {reply : Reply} {page : Page} (hnet : net.Stationary answer) (hmade : c.MadeOn net p)
    (h : c.read = .ok (reply, page)) : Reaches answer p.maxRedirects c.url reply page := by
  obtain ⟨hresult, hok, hpage⟩ := read_eq_ok h
  obtain ⟨s, s', hfetch⟩ := hmade
  have hsettled : (Fetching.fetch net p c.url c.headers s).1
      = settledFetch answer p.maxRedirects c.url := Fetching.settled_fetch hnet c.url c.headers s
  rw [hfetch] at hsettled
  exact ⟨hsettled.symm.trans hresult, hok, hpage⟩

end FetchCall

/-! ### Steps of a client -/

namespace Client

variable {c : Client σ} {s : Source} {answer : String → Outcome} {url : String} {reply : Reply}
  {page : Page}

theorem settled_receive (body : Body) :
    Settled (Page.receive body : Fetching σ Page) (Page.read body) :=
  Fetching.receive_result body

/-- On the site a page is loaded as it was fetched. -/
theorem settled_load (hnet : c.network.Stationary answer) {headers : List (String × String)}
    (hheaders : s.requestHeaders = .ok headers)
    (h : Reaches answer c.policy.maxRedirects url reply page) :
    Settled (c.load s url) (.ok (reply, page)) := by
  unfold load Fetching.fetchOk
  rw [hheaders]
  refine Settled.bind (Settled.pure headers)
    (Settled.bind (a := reply) (Settled.bind (a := reply) ?_ ?_) ?_)
  · rw [← h.fetched]
    exact Fetching.settled_fetch hnet url headers
  · rw [if_pos h.isOk]
    exact Settled.pure reply
  · refine Settled.bind (a := page) ?_ (Settled.pure (reply, page))
    rw [← h.read]
    exact settled_receive _

theorem settled_reportSkipped (failures : List (Nat × Fault)) :
    Settled (reportSkipped failures : Fetching σ Unit) (.ok ()) := by
  induction failures with
  | nil => exact Settled.pure ()
  | cons failure more ih => exact (Settled.happen _).bind ih

theorem settled_books {rules : ListRules} {harvest : Harvest BookEntry} {books : List BookEntry}
    (hload : Settled (c.load s url) (.ok (reply, page))) (hharvest : page.books rules = .ok harvest)
    (hbooks : (harvest.kept.mapM fun book =>
      (resolved reply.url book.url).map fun url => { book with url }) = .ok books) :
    Settled (c.books s url rules) (.ok books) := by
  unfold Client.books
  refine Settled.bind hload ?_
  dsimp only
  rw [hharvest]
  refine Settled.bind (Settled.pure harvest) (Settled.bind (settled_reportSkipped _) ?_)
  rw [hbooks]
  exact Settled.bind (Settled.pure books) (Settled.bind (Settled.happen _) (Settled.pure books))

theorem settled_requireBase (h : Text.allBlank s.url = false) :
    Settled (requireBase s : Fetching σ Unit) (.ok ()) := by
  unfold requireBase
  rw [h]
  exact Settled.pure ()

theorem settled_requireAddress (what : String) (h : Url.isAbsolute url.toList = true) :
    Settled (requireAddress what url : Fetching σ Unit) (.ok ()) := by
  unfold requireAddress
  rw [Url.allBlank_of_isAbsolute h]
  exact Settled.pure ()

/-- Records keep their names when their addresses are resolved. -/
theorem mapM_resolved {page : String} {items : List α} (address : α → String)
    (place : α → String → α) (name : α → String) (hname : ∀ a url, name (place a url) = name a)
    (h : ∀ a ∈ items, ∃ url, resolved page (address a) = .ok url) :
    ∃ items', (items.mapM fun a => (resolved page (address a)).map (place a)) = .ok items'
      ∧ items'.map name = items.map name
      ∧ ∀ a more, items = a :: more → ∃ url more', resolved page (address a) = .ok url
        ∧ items' = place a url :: more' := by
  induction items with
  | nil => exact ⟨[], rfl, rfl, fun a more hnil => nomatch hnil⟩
  | cons a more ih =>
    obtain ⟨url, hurl⟩ := h a (by simp)
    obtain ⟨more', hmore, hnames, -⟩ := ih fun b hb => h b (by simp [hb])
    refine ⟨place a url :: more', ?_, ?_, ?_⟩
    · rw [List.mapM_cons, hurl, hmore]
      rfl
    · rw [List.map_cons, List.map_cons, hname, hnames]
    · intro b rest hcons
      cases hcons
      exact ⟨url, more', hurl, rfl⟩

/-! ### Texts without a cache -/

def Uncached (work : Reading σ α) (a : α) : Prop :=
  ∀ session, ∃ session', work ⟨session, none⟩ = (.ok a, ⟨session', none⟩)

theorem Uncached.bind {x : Reading σ α} {k : α → Reading σ β} {a : α} {b : β} (hx : Uncached x a)
    (hk : Uncached (k a) b) : Uncached (x >>= k) b := by
  intro session
  obtain ⟨session', hrun⟩ := hx session
  obtain ⟨session'', hrun'⟩ := hk session'
  refine ⟨session'', ?_⟩
  rw [bind_run, hrun]
  exact hrun'

theorem Uncached.ofFetching {work : Fetching σ α} {a : α} (h : Settled work (.ok a)) :
    Uncached (.ofFetching work) a := by
  intro session
  have hresult := h session
  rcases hrun : work session with ⟨result, session'⟩
  rw [hrun] at hresult
  obtain rfl : result = .ok a := hresult
  refine ⟨session', ?_⟩
  unfold Reading.ofFetching
  rw [hrun]

theorem uncached_lookUp (url : String) :
    Uncached (lookUp url : Reading σ (Option ChapterText)) none :=
  fun session => ⟨session, rfl⟩

theorem uncached_keep (url : String) (text : ChapterText) :
    Uncached (keep url text : Reading σ Unit) () :=
  fun session => ⟨session, rfl⟩

/-! ### Calls -/

section Calls

variable {headers : List (String × String)} (hnet : c.network.Stationary answer)
  (hbase : Text.allBlank s.url = false) (hheaders : s.requestHeaders = .ok headers)
  (h : Reaches answer c.policy.maxRedirects url reply page)

include hnet hbase hheaders h

theorem settled_search {keyword : String} {harvest : Harvest BookEntry} {books : List BookEntry}
    (hkeyword : Text.allBlank keyword = false)
    (htemplate : Text.allBlank (s.searchUrl.getD "") = false)
    (hurl : Url.searchUrl s.url (Text.trim (s.searchUrl.getD "")) (Text.trim keyword) 1 = .ok url)
    (hharvest : page.books s.searchRulesInUse.toListRules = .ok harvest)
    (hbooks : (harvest.kept.mapM fun book =>
      (resolved reply.url book.url).map fun url => { book with url }) = .ok books) :
    Settled (c.search s keyword 1) (.ok books) := by
  have hne : ∀ {text : String}, Text.allBlank text = false → Text.trim text ≠ "" := by
    intro text hblank hempty
    rw [Text.trim_eq_empty_iff.mp hempty] at hblank
    cases hblank
  unfold search
  refine Settled.bind (settled_requireBase hbase) ?_
  dsimp only
  rw [if_neg (hne hkeyword), if_neg (hne htemplate), hurl]
  exact Settled.bind (Settled.pure url)
    (settled_books (settled_load hnet hheaders h) hharvest hbooks)

/-- A client finds the details that the rules read, with an address for the table of
    contents also where they name none. -/
theorem settled_detail {bookUrl toc cover : String} {d : BookDetail}
    (hbook : Url.isAbsolute bookUrl.toList = true) (hurl : url = Text.trim bookUrl)
    (hd : page.detail s.detailRulesInUse = .ok d)
    (htoc : if d.tocUrl = "" then toc = reply.url else Url.full reply.url d.tocUrl = .ok toc)
    (hcover : resolved reply.url d.coverUrl = .ok cover) :
    Settled (c.detail s bookUrl) (.ok { d with tocUrl := toc, coverUrl := cover }) := by
  unfold detail
  refine Settled.bind (settled_requireBase hbase) (Settled.bind (settled_requireAddress _ hbook) ?_)
  rw [Url.full_absolute s.url hbook, ← hurl]
  refine Settled.bind (Settled.pure url) (Settled.bind (settled_load hnet hheaders h) ?_)
  dsimp only
  rw [hd]
  refine Settled.bind (Settled.pure d) ?_
  rw [hcover]
  by_cases hempty : d.tocUrl = ""
  · rw [if_pos hempty] at htoc ⊢
    rw [← htoc]
    exact Settled.bind (Settled.pure toc) (Settled.bind (Settled.pure cover) (Settled.pure _))
  · rw [if_neg hempty] at htoc ⊢
    rw [htoc]
    exact Settled.bind (Settled.pure toc) (Settled.bind (Settled.pure cover) (Settled.pure _))

theorem settled_chapters {tocUrl : String} {harvest : Harvest Chapter} {chapters : List Chapter}
    (htoc : Url.isAbsolute tocUrl.toList = true) (hurl : url = Text.trim tocUrl)
    (hharvest : page.chapters s.tocRulesInUse = .ok harvest) (hne : harvest.kept ≠ [])
    (hchapters : (harvest.kept.mapM fun chapter =>
      (resolved reply.url chapter.url).map fun url => { chapter with url }) = .ok chapters) :
    Settled (c.chapters s tocUrl) (.ok chapters) := by
  unfold Client.chapters
  refine Settled.bind (settled_requireBase hbase) (Settled.bind (settled_requireAddress _ htoc) ?_)
  rw [Url.full_absolute s.url htoc, ← hurl]
  refine Settled.bind (Settled.pure url) (Settled.bind (settled_load hnet hheaders h) ?_)
  dsimp only
  rw [hharvest]
  refine Settled.bind (Settled.pure harvest) (Settled.bind (settled_reportSkipped _) ?_)
  rw [if_neg (by simpa using hne), hchapters]
  by_cases hfailed : harvest.failed ≠ 0
  · rw [if_pos hfailed]
    exact Settled.bind (Settled.happen _) (Settled.pure chapters)
  · rw [if_neg hfailed]
    exact Settled.pure chapters

theorem uncached_content {chapterUrl : String} {text : ChapterText}
    (hchapter : Url.isAbsolute chapterUrl.toList = true) (hurl : url = Text.trim chapterUrl)
    (htext : page.chapterText s.contentRulesInUse = .ok text) :
    Uncached (c.content s chapterUrl) text := by
  have haddress : Settled (chapterAddress s chapterUrl : Fetching σ String) (.ok url) := by
    unfold chapterAddress
    refine Settled.bind (settled_requireBase hbase)
      (Settled.bind (settled_requireAddress _ hchapter) ?_)
    rw [Url.full_absolute s.url hchapter, ← hurl]
    exact Settled.pure url
  have hfetch : Settled (c.fetchText s url) (.ok text) := by
    unfold fetchText
    refine Settled.bind (settled_load hnet hheaders h) ?_
    dsimp only
    rw [htext]
    exact Settled.pure text
  unfold content
  refine (Uncached.ofFetching haddress).bind ((uncached_lookUp url).bind ?_)
  exact (Uncached.ofFetching hfetch).bind
    ((uncached_keep url text).bind fun session => ⟨session, rfl⟩)

end Calls

/-! ### Agreement -/

/-- The details with their addresses resolved against the page they are on, which stands
    in for a table of contents that they do not name. -/
structure ResolvedFrom (page : String) (found d : BookDetail) : Prop where
  rest : d = { found with tocUrl := d.tocUrl, coverUrl := d.coverUrl }
  toc : if found.tocUrl = "" then d.tocUrl = page else Url.full page found.tocUrl = .ok d.tocUrl
  cover : resolved page found.coverUrl = .ok d.coverUrl

/-- Search, details of the first book, its chapters, text of the first chapter: each call
    succeeds, with the books and chapters by name, the details but for their addresses and
    the text of these findings. -/
def AgreesWith (c : Client σ) (s : Source) (keyword : String) (f : Findings) : Prop :=
  ∃ (b : BookEntry) (books : List BookEntry) (d : BookDetail) (chapter : Chapter)
    (chapters : List Chapter) (text : ChapterText),
    Settled (c.search s keyword 1) (.ok (b :: books))
    ∧ Settled (c.detail s b.url) (.ok d)
    ∧ Settled (c.chapters s d.tocUrl) (.ok (chapter :: chapters))
    ∧ Uncached (c.content s chapter.url) text
    ∧ (b :: books).map (·.name) = f.search.map (·.name)
    ∧ (∃ found page, f.detail = some found ∧ ResolvedFrom page found d)
    ∧ (chapter :: chapters).map (·.name) = f.chapters.map (·.name)
    ∧ f.content = some text

end Client

/-- Every address that was extracted on the way resolves, and those that are followed and
    those that answered are absolute. -/
structure Itinerary.Resolves (s : Source) (i : Itinerary) : Prop where
  books : ∀ c books page, i.search = some c → c.booksAt s = .ok (books, page) →
    ∀ b ∈ books, ∃ url, Client.resolved page b.url = .ok url
  cover : ∀ c d page, i.detail = some c → c.detailAt s = .ok (d, page) →
    ∃ url, Client.resolved page d.coverUrl = .ok url
  chapters : ∀ c chapters page, i.ChaptersFrom s c → c.chaptersAt s = .ok (chapters, page) →
    ∀ chapter ∈ chapters, ∃ url, Client.resolved page chapter.url = .ok url
  followed : ∀ c, i.detail = some c ∨ i.toc = some c ∨ i.content = some c →
    Url.isAbsolute c.url.toList = true
  answered : ∀ c ∈ i.calls, ∀ reply, c.result = .ok reply →
    Url.isAbsolute reply.url.toList = true ∧ Text.trim reply.url = reply.url

theorem Client.resolved_of_ne {page url : String} (h : url ≠ "") :
    Client.resolved page url = Url.full page url := if_neg h

theorem Itinerary.mem_calls {i : Itinerary} {c : FetchCall} :
    c ∈ i.calls ↔ i.search = some c ∨ i.detail = some c ∨ i.toc = some c ∨ i.content = some c := by
  simp [calls]

theorem Itinerary.ChaptersFrom.mem_calls {s : Source} {i : Itinerary} {c : FetchCall}
    (h : i.ChaptersFrom s c) : c ∈ i.calls := by
  obtain ⟨c₀, d, page, hc₀, -, hc⟩ := h
  rw [Itinerary.mem_calls]
  by_cases hempty : d.tocUrl = ""
  · rw [if_pos hempty] at hc
    rw [hc.2]
    exact .inr (.inl hc₀)
  · rw [if_neg hempty] at hc
    exact .inr (.inr (.inl hc))

def Client.allResolve (address : α → String) : Except Fault (List α × String) → Bool
  | .ok (items, page) => items.all fun a => (resolved page (address a)).toOption.isSome
  | .error _ => true

theorem Client.exists_of_allResolve {address : α → String} {items : List α} {page : String}
    (h : allResolve address (.ok (items, page)) = true) :
    ∀ a ∈ items, ∃ url, resolved page (address a) = .ok url := by
  intro a ha
  have hsome := List.all_eq_true.mp h a ha
  cases hurl : resolved page (address a) with
  | ok url => exact ⟨url, rfl⟩
  | error e => rw [hurl] at hsome; cases hsome

/-- Whatever is read from the page of a fetch resolves, and the fetch goes from one absolute
    address to another. -/
def FetchCall.resolves (s : Source) (c : FetchCall) : Bool :=
  Client.allResolve (·.url) (c.booksAt s)
    && Client.allResolve (·.coverUrl) ((c.detailAt s).map fun (d, page) => ([d], page))
    && Client.allResolve (·.url) (c.chaptersAt s)
    && Url.isAbsolute c.url.toList
    && match c.result with
      | .ok reply => Url.isAbsolute reply.url.toList && decide (Text.trim reply.url = reply.url)
      | .error _ => true

/-- An itinerary resolves if each of its fetches does, which can be computed. -/
theorem Itinerary.resolves_of_calls {s : Source} {i : Itinerary}
    (h : i.calls.all (·.resolves s) = true) : i.Resolves s := by
  have hcall : ∀ c ∈ i.calls, c.resolves s = true := List.all_eq_true.mp h
  have hparts : ∀ c ∈ i.calls, _ := fun c hc => by
    have hc := hcall c hc
    simp only [FetchCall.resolves, Bool.and_eq_true, and_assoc] at hc
    exact hc
  constructor
  · intro c books page hc hbooks
    have hb := (hparts c (mem_calls.mpr (.inl hc))).1
    rw [hbooks] at hb
    exact Client.exists_of_allResolve hb
  · intro c d page hc hd
    have hcover := (hparts c (mem_calls.mpr (.inr (.inl hc)))).2.1
    rw [hd] at hcover
    exact Client.exists_of_allResolve hcover d (by simp)
  · intro c chapters page hc hchapters
    have hch := (hparts c hc.mem_calls).2.2.1
    rw [hchapters] at hch
    exact Client.exists_of_allResolve hch
  · intro c hc
    exact (hparts c (mem_calls.mpr (.inr hc))).2.2.2.1
  · intro c hc reply hreply
    have hanswered := (hparts c hc).2.2.2.2
    rw [hreply] at hanswered
    simpa using hanswered

section Agreement

variable {net : Network σ} {c : Client τ} {t : Task} {keyword : String} {answer : String → Outcome}
  {i : Itinerary} {f : Findings}

/-! ### The four calls -/

/-- The client and a run with these fetches look at one site, with one limit of redirects. -/
structure SameSite (net : Network σ) (c : Client τ) (t : Task) (answer : String → Outcome)
    (i : Itinerary) : Prop where
  run : net.Stationary answer
  client : c.network.Stationary answer
  limit : c.policy.maxRedirects = t.policy.maxRedirects
  made : ∀ call ∈ i.calls, call.MadeOn net t.policy

theorem SameSite.reaches (hsite : SameSite net c t answer i) {call : FetchCall} {reply : Reply}
    {page : Page} (hmem : call ∈ i.calls) (hread : call.read = .ok (reply, page)) :
    Reaches answer c.policy.maxRedirects call.url reply page := by
  rw [hsite.limit]
  exact FetchCall.reaches hsite.run (hsite.made call hmem) hread

/-- The address of the table of contents that a client is given, and the page that it
    reaches: where the details name none, the page of the details once more. -/
theorem Itinerary.toc_reaches (hsite : SameSite net c t answer i) (hfollows : i.Follows t keyword)
    (hresolves : i.Resolves t.source) {cd cc : FetchCall} {d : BookDetail} {reply reply' : Reply}
    {page page' : Page} (hcd : i.detail = some cd) (hd : cd.detailAt t.source = .ok (d, reply.url))
    (hread : cd.read = .ok (reply, page)) (hcc : i.ChaptersFrom t.source cc)
    (hread' : cc.read = .ok (reply', page')) :
    ∃ toc, (if d.tocUrl = "" then toc = reply.url else Url.full reply.url d.tocUrl = .ok toc)
      ∧ Url.isAbsolute toc.toList = true
      ∧ Reaches answer c.policy.maxRedirects (Text.trim toc) reply' page' := by
  obtain ⟨cd', d', page'', hcd', hd', htoc⟩ := hcc
  rw [hcd] at hcd'
  cases hcd'
  rw [hd] at hd'
  cases hd'
  by_cases hempty : d.tocUrl = ""
  · rw [if_pos hempty] at htoc
    obtain ⟨-, rfl⟩ := htoc
    rw [hread] at hread'
    cases hread'
    have hmem : cc ∈ i.calls := Itinerary.mem_calls.mpr (.inr (.inl hcd))
    obtain ⟨habsolute, htrim⟩ := hresolves.answered cc hmem reply (FetchCall.read_eq_ok hread).1
    -- the client asks for the address that answered, which leads straight back to the page
    refine ⟨reply.url, by rw [if_pos hempty], habsolute, ?_⟩
    exact ((hsite.reaches hmem hread).own hsite.run.own habsolute htrim).trim
  · rw [if_neg hempty] at htoc
    have hmem : cc ∈ i.calls := Itinerary.mem_calls.mpr (.inr (.inr (.inl htoc)))
    obtain ⟨cd', d', page'', hcd', hd', -, hurl⟩ := hfollows.toc cc htoc
    rw [hcd] at hcd'
    cases hcd'
    rw [hd] at hd'
    cases hd'
    refine ⟨cc.url, by rw [if_neg hempty]; exact hurl, hresolves.followed cc (.inr (.inl htoc)), ?_⟩
    exact (hsite.reaches hmem hread').trim

variable (hsite : SameSite net c t answer i) (hbase : Text.allBlank t.source.url = false)
  (hfollows : i.Follows t (Text.trim keyword)) (hresolves : i.Resolves t.source)

include hsite hbase hfollows hresolves

/-- The client finds the books of the run, and the first of them leads to the address of the
    details. -/
theorem Itinerary.search_agrees (hyields : i.Yields t.source f)
    (hkeyword : Text.allBlank keyword = false)
    (htemplate : Text.allBlank (t.source.searchUrl.getD "") = false) {cs cd : FetchCall}
    (hcs : i.search = some cs) (hcd : i.detail = some cd) :
    ∃ b books, Fetching.Settled (c.search t.source keyword 1) (.ok (b :: books)) ∧ b.url = cd.url
      ∧ (b :: books).map (·.name) = f.search.map (·.name) := by
  have hmem : cs ∈ i.calls := Itinerary.mem_calls.mpr (.inl hcs)
  obtain ⟨page, hbooks⟩ := hyields.books.2 cs hcs
  obtain ⟨first, more, page', hbooks', hne, hurl⟩ := hfollows.detail cd cs hcd hcs
  obtain ⟨hsearch, rfl⟩ := Prod.mk.inj (Except.ok.inj (hbooks.symm.trans hbooks'))
  obtain ⟨reply, pg, harvest, hread, hharvest, hkept, rfl⟩ := FetchCall.booksAt_eq_ok hbooks
  obtain ⟨books, hmapM, hnames, hfirst⟩ := Client.mapM_resolved (·.url)
    (fun (b : BookEntry) url => { b with url }) (·.name) (fun _ _ => rfl)
    (hresolves.books cs f.search reply.url hcs hbooks)
  obtain ⟨url, books', hresolved, rfl⟩ := hfirst first more hsearch
  rw [Client.resolved_of_ne hne, hurl] at hresolved
  cases hresolved
  have htrimmed : Running.searchTemplate t.source = Text.trim (t.source.searchUrl.getD "") := by
    refine if_neg fun hempty => ?_
    rw [Text.trim_eq_empty_iff.mp hempty] at htemplate
    cases htemplate
  have hsearchUrl := hfollows.search cs hcs
  rw [htrimmed] at hsearchUrl
  refine ⟨_, books', ?_, rfl, hnames⟩
  rw [← hkept] at hmapM
  exact Client.settled_search hsite.client hbase (hfollows.headers cs hmem)
    (hsite.reaches hmem hread) hkeyword htemplate hsearchUrl hharvest hmapM

/-- The client finds the details of the run, and the address of the table of contents leads
    to the page on which the run found its chapters. -/
theorem Itinerary.detail_agrees {cd cc : FetchCall} {d : BookDetail} {page : String} {reply : Reply}
    {pg : Page} (hcd : i.detail = some cd) (hd : cd.detailAt t.source = .ok (d, page))
    (hcc : i.ChaptersFrom t.source cc) (hread : cc.read = .ok (reply, pg)) :
    ∃ d', Fetching.Settled (c.detail t.source cd.url) (.ok d') ∧ Client.ResolvedFrom page d d'
      ∧ Url.isAbsolute d'.tocUrl.toList = true
      ∧ Reaches answer c.policy.maxRedirects (Text.trim d'.tocUrl) reply pg := by
  have hmem : cd ∈ i.calls := Itinerary.mem_calls.mpr (.inr (.inl hcd))
  obtain ⟨cover, hcover⟩ := hresolves.cover cd d page hcd hd
  obtain ⟨reply', pg', hread', hdetail, rfl⟩ := FetchCall.detailAt_eq_ok hd
  obtain ⟨toc, htoc, habsolute, htocReaches⟩ :=
    Itinerary.toc_reaches hsite hfollows hresolves hcd hd hread' hcc hread
  refine ⟨{ d with tocUrl := toc, coverUrl := cover }, ?_, ⟨rfl, htoc, hcover⟩,
    habsolute, htocReaches⟩
  exact Client.settled_detail hsite.client hbase (hfollows.headers cd hmem)
    (hsite.reaches hmem hread').trim (hresolves.followed cd (.inl hcd)) rfl hdetail htoc hcover

/-- The client finds the chapters of the run, and the first of them leads to the address of
    the text. -/
theorem Itinerary.chapters_agrees {cc ct : FetchCall} {toc page : String}
    {reply : Reply} {pg : Page} (hcc : i.ChaptersFrom t.source cc)
    (hread : cc.read = .ok (reply, pg))
    (hchapters : cc.chaptersAt t.source = .ok (f.chapters, page)) (hct : i.content = some ct)
    (habsolute : Url.isAbsolute toc.toList = true)
    (htoc : Reaches answer c.policy.maxRedirects (Text.trim toc) reply pg) :
    ∃ chapter chapters, Fetching.Settled (c.chapters t.source toc) (.ok (chapter :: chapters))
      ∧ chapter.url = ct.url ∧ (chapter :: chapters).map (·.name) = f.chapters.map (·.name) := by
  have hmem : ct ∈ i.calls := Itinerary.mem_calls.mpr (.inr (.inr (.inr hct)))
  obtain ⟨cc', first, more, page', hcc', hchapters', hne, hurl⟩ := hfollows.content ct hct
  obtain rfl := hcc.unique hcc'
  obtain ⟨hfound, rfl⟩ := Prod.mk.inj (Except.ok.inj (hchapters.symm.trans hchapters'))
  obtain ⟨reply', pg', harvest, hread', hharvest, hkept, rfl⟩ :=
    FetchCall.chaptersAt_eq_ok hchapters
  rw [hread] at hread'
  cases hread'
  obtain ⟨chapters, hmapM, hnames, hfirst⟩ := Client.mapM_resolved (·.url)
    (fun (chapter : Chapter) url => { chapter with url }) (·.name) (fun _ _ => rfl)
    (hresolves.chapters cc f.chapters reply.url hcc hchapters)
  obtain ⟨url, chapters', hresolved, rfl⟩ := hfirst first more hfound
  rw [Client.resolved_of_ne hne, hurl] at hresolved
  cases hresolved
  refine ⟨_, chapters', ?_, rfl, hnames⟩
  have hkept_ne : harvest.kept ≠ [] := by
    rw [hkept, hfound]
    exact List.cons_ne_nil first more
  rw [← hkept] at hmapM
  exact Client.settled_chapters hsite.client hbase (hfollows.headers ct hmem) htoc habsolute
    rfl hharvest hkept_ne hmapM

theorem Itinerary.text_agrees {ct : FetchCall} {text : ChapterText} (hct : i.content = some ct)
    (htext : ct.textAt t.source = .ok text) : Client.Uncached (c.content t.source ct.url) text := by
  have hmem : ct ∈ i.calls := Itinerary.mem_calls.mpr (.inr (.inr (.inr hct)))
  obtain ⟨⟨reply, pg⟩, hread, hpage⟩ := bind_eq_ok.mp htext
  exact Client.uncached_content hsite.client hbase (hfollows.headers ct hmem)
    (hsite.reaches hmem hread).trim (hresolves.followed ct (.inr (.inr hct))) rfl hpage

end Agreement

/-! ### The client and the run -/

/-- On a stationary site, where a run completes a search for a keyword that is no address,
    a client with the same limit of redirects finds the same, if the addresses of the
    itinerary resolve. -/
theorem client_agrees (env : Surroundings σ) (t : Task) (keyword : String) (d : Debugger σ)
    (c : Client τ) (answer : String → Outcome) (report : Report)
    (hnet : env.network.Stationary answer) (hclient : c.network.Stationary answer)
    (hpolicy : c.policy.maxRedirects = t.policy.maxRedirects)
    (hbase : Text.allBlank t.source.url = false)
    (htemplate : Text.allBlank (t.source.searchUrl.getD "") = false)
    (hkeyword : Text.allBlank keyword = false)
    (hrelative : Url.isAbsolute (Text.trim keyword).toList = false) (hidle : d.running = false)
    (h : (d.run env t keyword).result = .ok report) (hcompleted : report.completed = true) :
    ∃ i : Itinerary,
      (d.run env t keyword).debugger.session.fetches = d.session.fetches ++ i.calls
      ∧ i.Follows t (Text.trim keyword) ∧ i.Yields t.source report.findings
      ∧ (i.Resolves t.source → c.AgreesWith t.source keyword report.findings) := by
  obtain ⟨f, u, lines, hfetches, hmade, hcourse, hresult⟩ := Debugger.run_course env t keyword hidle
  rw [hresult] at h
  obtain ⟨ending, hending, rfl⟩ := map_eq_ok.mp h
  have hstart := Itinerary.leadsTo_start t (Text.trim keyword)
  obtain ⟨i, hcalls, hfollows, hsearch, hyieldsHome⟩ :=
    hcourse.itinerary hending hstart (Itinerary.follows_empty t _)
  have hyields : i.Yields t.source f := hyieldsHome (Upshot.home_of_completed hending hcompleted)
  have hcalls' : i.calls = d.calls env t keyword := hcalls
  rw [← hcalls'] at hfetches hmade
  refine ⟨i, hfetches, hfollows, hyields, fun hresolves => ?_⟩
  obtain ⟨cs, hcs⟩ : ∃ cs, i.search = some cs := by
    rw [← Option.isSome_iff_exists, Option.isSome_iff_ne_none, ne_eq, hsearch, hrelative]
    exact Bool.false_ne_true
  obtain ⟨cd, detail, page, hcd, hd, hfound⟩ := hyields.detail
  obtain ⟨cc, page', hcc, hchapters⟩ := hyields.chapters
  obtain ⟨ct, text, hct, htext, hcontent⟩ := hyields.text
  obtain ⟨reply, pg, -, hread, -⟩ := FetchCall.chaptersAt_eq_ok hchapters
  have hsite : SameSite env.network c t answer i := ⟨hnet, hclient, hpolicy, hmade⟩
  obtain ⟨b, books, hbooks, hburl, hnames⟩ :=
    Itinerary.search_agrees hsite hbase hfollows hresolves hyields hkeyword htemplate hcs hcd
  obtain ⟨details, hdetail, hresolved, habsolute, htoc⟩ :=
    Itinerary.detail_agrees hsite hbase hfollows hresolves hcd hd hcc hread
  obtain ⟨chapter, chapters, hchaptersSettled, hcurl, hcnames⟩ :=
    Itinerary.chapters_agrees hsite hbase hfollows hresolves hcc hread hchapters hct habsolute htoc
  have htextSettled := Itinerary.text_agrees hsite hbase hfollows hresolves hct htext
  rw [← hburl] at hdetail
  rw [← hcurl] at htextSettled
  exact ⟨b, books, _, chapter, chapters, text, hbooks, hdetail, hchaptersSettled,
    htextSettled, hnames, ⟨detail, page, hfound, hresolved⟩, hcnames, hcontent⟩

/-- Everywhere a shelf of two books, which are the chapters of the first one as well, and
    a text. -/
def Surroundings.shelf : Surroundings Unit :=
  .quiet (.mirror ("\x7b\"l\":[\x7b\"n\":\"A\",\"u\":\"/b\"\x7d,\x7b\"n\":\"B\",\"u\":\"/c\"\x7d]"
    ++ ",\"n\":\"A\",\"t\":\"x\"\x7d"))

def Task.shelf : Task where
  source :=
    { url := "http://a", searchUrl := some "/s"
      searchRules := some { bookList := some "l", name := some "n", bookUrl := some "u" }
      detailRules := some { name := some "n" }
      tocRules := some { chapterList := some "l", chapterName := some "n", chapterUrl := some "u" }
      contentRules := some { content := some "t" } }
  policy := Task.oneLink.policy
  settings := Settings.usual

theorem Network.mirror_stationary (body : String) :
    (Network.mirror body).Stationary fun url => .reply ⟨url, 200, body.toUTF8.toList, []⟩ where
  answers := fun _ _ => rfl
  own := by
    intro url reply hreply
    cases hreply
    rfl

theorem shelf_client_agrees : ∃ report,
    ((Debugger.start ()).run .shelf .shelf "k").result = .ok report
      ∧ report.findings.search.map (·.name) = ["A", "B"]
      ∧ report.findings.detail.map (·.name) = some "A"
      ∧ report.findings.chapters.map (·.name) = ["A", "B"]
      ∧ report.findings.content.map (·.content) = some "x"
      ∧ (Client.mk Surroundings.shelf.network Task.shelf.policy).AgreesWith Task.shelf.source "k"
        report.findings := by
  obtain ⟨report, h, hshown⟩ := exists_ok_of_any
    (x := ((Debugger.start ()).run .shelf .shelf "k").result)
    (p := fun report => report.completed && decide (report.findings.search.map (·.name) = ["A", "B"]
      ∧ report.findings.detail.map (·.name) = some "A"
      ∧ report.findings.chapters.map (·.name) = ["A", "B"]
      ∧ report.findings.content.map (·.content) = some "x"))
    (by decide +kernel)
  obtain ⟨hcompleted, hnamed⟩ := Bool.and_eq_true_iff.mp hshown
  obtain ⟨hsearch, hdetail, hchapters, hcontent⟩ := of_decide_eq_true hnamed
  have hnet := Network.mirror_stationary
  obtain ⟨i, hfetches, -, -, hagrees⟩ := client_agrees .shelf .shelf "k" (Debugger.start ())
    ⟨Surroundings.shelf.network, Task.shelf.policy⟩ _ report (hnet _) (hnet _) rfl
    (by decide) (by decide) (by decide) (by decide) rfl h hcompleted
  refine ⟨report, h, hsearch, hdetail, hchapters, hcontent,
    hagrees (Itinerary.resolves_of_calls ?_)⟩
  have hcalls : i.calls = ((Debugger.start ()).run .shelf .shelf "k").debugger.session.fetches :=
    hfetches.symm
  rw [hcalls]
  decide +kernel

end Gleaner
