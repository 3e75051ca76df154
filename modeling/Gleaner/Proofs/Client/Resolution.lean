/-
  Gleaner/Proofs/Client/Resolution.lean
  =====================================
  **What a client returns is resolved.**  A call that returns made one fetch, and every
  record that it returns was found on the page that was fetched.  Its address is resolved
  against that page, and if all pages have absolute addresses it is not a relative one
  (`records_are_resolved`).  The details of a book are resolved with their cover; in a list of
  books the covers are as they were found (`listed_cover_hangs_on_page`).
-/
import Gleaner.Proofs.Client.Agreement
import Gleaner.Proofs.Client.Cache
import Gleaner.Proofs.Fetch.Fault

namespace Gleaner

variable {σ α β : Type}

def Network.AnswersAbsolutely (net : Network σ) : Prop :=
  ∀ r s reply, (net r s).1 = .reply reply → Url.isAbsolute reply.url.toList = true

/-- What a fetch comes to is a reply of the network. -/
theorem FetchCall.MadeOn.absolute {net : Network σ} {p : FetchPolicy} {c : FetchCall}
    {reply : Reply} (hnet : net.AnswersAbsolutely) (hmade : c.MadeOn net p)
    (h : c.result = .ok reply) :
    Url.isAbsolute reply.url.toList = true := by
  obtain ⟨s, s', hfetch⟩ := hmade
  have hpost := Fetching.fetch_fault (p := p) net.failsIn_any c.url c.headers s
  rw [hfetch, h] at hpost
  obtain ⟨url, r, t, -, hanswer⟩ := hpost
  exact hnet r t reply hanswer

/-! ### Work after the fetch -/

namespace Fetching

/-- Work that fetches nothing and returns, if at all, what `Φ` allows. -/
def Quiet (work : Fetching σ α) (Φ : α → Prop) : Prop :=
  ∀ s, (work s).2.fetches = s.fetches ∧ ∀ a, (work s).1 = .ok a → Φ a

section Rules

variable {Φ : α → Prop} {Ψ : β → Prop}

theorem quiet_pure {a : α} (h : Φ a) : Quiet (pure a : Fetching σ α) Φ := by
  intro s
  refine ⟨rfl, ?_⟩
  rintro _ ⟨⟩
  exact h

theorem Quiet.mono {work : Fetching σ α} {Φ' : α → Prop} (h : Quiet work Φ) (hΦ : ∀ a, Φ a → Φ' a) :
    Quiet work Φ' :=
  fun s => ⟨(h s).1, fun a ha => hΦ a ((h s).2 a ha)⟩

theorem quiet_throw (e : Fault) : Quiet (throw e : Fetching σ α) Φ :=
  fun _ => ⟨rfl, fun _ h => nomatch h⟩

theorem quiet_ofResult {x : Except Fault α} (h : ∀ a, x = .ok a → Φ a) :
    Quiet (ofResult x : Fetching σ α) Φ := by
  cases x with
  | ok a => exact quiet_pure (h a rfl)
  | error e => exact quiet_throw e

theorem quiet_notice (line : String) : Quiet (notice line : Fetching σ Unit) fun _ => True :=
  fun s => ⟨(Routine.happen rfl).fetches s, fun _ _ => trivial⟩

theorem quiet_bind {x : Fetching σ α} {k : α → Fetching σ β} (hx : Quiet x Φ)
    (hk : ∀ a, Φ a → Quiet (k a) Ψ) : Quiet (x >>= k) Ψ := by
  intro s
  obtain ⟨hlog, hreturns⟩ := hx s
  rw [bind_run]
  rcases hrun : x s with ⟨e | a, s'⟩
  · rw [hrun] at hlog
    exact ⟨hlog, fun b h => nomatch h⟩
  · rw [hrun] at hlog hreturns
    obtain ⟨hlog', hreturns'⟩ := hk a (hreturns a rfl) s'
    exact ⟨hlog'.trans hlog, hreturns'⟩

end Rules

end Fetching

namespace Client

open Fetching (Logs Routine Quiet logs_bind quiet_bind quiet_pure quiet_throw quiet_ofResult
  quiet_notice)

variable {c : Client σ} {s : Source} {url : String}

/-! ### Records of a page -/

/-- An address as it is returned for one that was found on a page. -/
structure AddressFrom (page found url : String) : Prop where
  resolved : resolved page found = .ok url
  firm : ¬ Url.IsRelative url

/-- A book as it is returned for one that was found on a page.  But for its address it is as
    it was found, with the cover. -/
structure EntryFrom (page : String) (found b : BookEntry) : Prop where
  rest : b = { found with url := b.url }
  url : AddressFrom page found.url b.url

structure ChapterFrom (page : String) (found chapter : Chapter) : Prop where
  rest : chapter = { found with url := chapter.url }
  url : AddressFrom page found.url chapter.url

/-- Details as they are returned.  The page stands in for a table of contents. -/
structure DetailFrom (page : String) (found d : BookDetail) : Prop where
  rest : d = { found with tocUrl := d.tocUrl, coverUrl := d.coverUrl }
  toc : if found.tocUrl = "" then d.tocUrl = page else Url.full page found.tocUrl = .ok d.tocUrl
  tocFirm : ¬ Url.IsRelative d.tocUrl
  cover : AddressFrom page found.coverUrl d.coverUrl

/-- What resolves against an absolute page has an address from that page. -/
theorem AddressFrom.of_resolved {page found url : String}
    (hpage : Url.isAbsolute page.toList = true) (h : Client.resolved page found = .ok url) :
    AddressFrom page found url := by
  refine ⟨h, ?_⟩
  unfold Client.resolved at h
  by_cases hempty : found = ""
  · rw [if_pos hempty] at h
    cases h
    exact fun hrelative => hrelative.1 rfl
  · rw [if_neg hempty] at h
    exact Url.not_isRelative (Url.full_hasScheme hpage h)

/-- The only fetch read a page with an absolute address, and what was found there is as `Φ`
    says of that address. -/
def FoundBy (calls : List FetchCall) (find : Page → Except Fault α) (Φ : String → α → Prop) :
    Prop :=
  ∃ call reply page found, calls = [call] ∧ call.read = .ok (reply, page)
    ∧ Url.isAbsolute reply.url.toList = true ∧ find page = .ok found ∧ Φ reply.url found

/-! ### Calls -/

section Calls

theorem quiet_requireBase : Quiet (requireBase s : Fetching σ Unit) fun _ => True := by
  unfold requireBase
  by_cases h : Text.allBlank s.url = true
  · rw [if_pos h]
    exact quiet_throw _
  · rw [if_neg h]
    exact quiet_pure trivial

theorem quiet_requireAddress (what : String) :
    Quiet (requireAddress what url : Fetching σ Unit) fun _ => True := by
  unfold requireAddress
  by_cases h : Text.allBlank url = true
  · rw [if_pos h]
    exact quiet_throw _
  · rw [if_neg h]
    exact quiet_pure trivial

theorem quiet_reportSkipped (failures : List (Nat × Fault)) :
    Quiet (reportSkipped failures : Fetching σ Unit) fun _ => True := by
  induction failures with
  | nil => exact quiet_pure trivial
  | cons failure more ih => exact quiet_bind (quiet_notice _) fun _ _ => ih

theorem quiet_resolveAll {records : List α} {address : α → String} {place : α → String → α}
    {Φ : α → α → Prop} {page : String} (hpage : Url.isAbsolute page.toList = true)
    (h : ∀ a url, AddressFrom page (address a) url → Φ a (place a url)) :
    Quiet (Fetching.ofResult (records.mapM fun a => (resolved page (address a)).map (place a)) :
      Fetching σ (List α)) (List.Forall₂ Φ records) := by
  apply quiet_ofResult
  intro placed hplaced
  refine (mapM_eq_ok.mp hplaced).imp ?_
  intro a b hab
  obtain ⟨url, hurl, rfl⟩ := map_eq_ok.mp hab
  exact h a url (.of_resolved hpage hurl)

/-- Work that starts without a fetch adds what the rest of it adds. -/
theorem logs_quiet_bind {x : Fetching σ α} {k : α → Fetching σ β} {Φ : α → Prop}
    {Ψ : List FetchCall → Except Fault β → Prop} (hx : Quiet x Φ) (hfail : ∀ e, Ψ [] (.error e))
    (hk : ∀ a, Φ a → Logs (k a) Ψ) : Logs (x >>= k) Ψ := by
  refine Fetching.logs_bind fun session => ?_
  obtain ⟨hlog, hreturns⟩ := hx session
  refine ⟨[], by rw [hlog, List.append_nil], ?_⟩
  rcases hrun : x session with ⟨e | a, session'⟩
  · exact hfail e
  · rw [hrun] at hreturns
    exact hk a (hreturns a rfl)

/-- If the work must return for anything to be said, nothing is said where it fails at first. -/
theorem logs_returns_bind {x : Fetching σ α} {k : α → Fetching σ β} {Φ : α → Prop}
    {Ψ : List FetchCall → β → Prop} (hx : Quiet x Φ)
    (hk : ∀ a, Φ a → Logs (k a) fun calls y => ∀ b, y = .ok b → Ψ calls b) :
    Logs (x >>= k) fun calls y => ∀ b, y = .ok b → Ψ calls b :=
  logs_quiet_bind hx (fun _ _ h => nomatch h) hk

variable (hnet : c.network.AnswersAbsolutely)

include hnet

/-- What is done after the page is loaded fetches nothing more. -/
theorem logs_load_bind {k : Reply × Page → Fetching σ β} {find : Page → Except Fault α}
    {Φ : String → α → β → Prop}
    (hk : ∀ reply page, Url.isAbsolute reply.url.toList = true →
      Quiet (k (reply, page)) fun b => ∃ found, find page = .ok found ∧ Φ reply.url found b) :
    Logs (c.load s url >>= k) fun calls x => ∀ b, x = .ok b →
      FoundBy calls find fun page found => Φ page found b := by
  refine logs_bind ((logs_load c s url).mono ?_)
  rintro calls (e | ⟨reply, page⟩) hread
  · exact fun b h => nomatch h
  · obtain ⟨call, rfl, -, hmade, hcall⟩ := hread _ rfl
    have habsolute := hmade.absolute hnet (FetchCall.read_eq_ok hcall).1
    intro session
    obtain ⟨hlog, hreturns⟩ := hk reply page habsolute session
    refine ⟨[], by rw [hlog, List.append_nil], ?_⟩
    intro b hb
    obtain ⟨found, hfind, hfound⟩ := hreturns b hb
    exact ⟨call, reply, page, found, rfl, hcall, habsolute, hfind, hfound⟩

/-- Books that are returned are the ones found on the page, with addresses from it. -/
theorem logs_books (rules : ListRules) :
    Logs (c.books s url rules) fun calls x => ∀ books, x = .ok books →
      FoundBy calls (·.books rules) fun page harvest =>
        List.Forall₂ (EntryFrom page) harvest.kept books := by
  unfold Client.books
  refine logs_load_bind hnet fun reply page hpage => ?_
  refine quiet_bind (quiet_ofResult fun harvest hharvest => hharvest) fun harvest hharvest => ?_
  refine quiet_bind (quiet_reportSkipped _) fun _ _ => ?_
  refine quiet_bind (quiet_resolveAll (Φ := EntryFrom reply.url) hpage
    fun b url hurl => ⟨rfl, hurl⟩) fun books hbooks => ?_
  exact quiet_bind (quiet_notice _) fun _ _ => quiet_pure ⟨harvest, hharvest, hbooks⟩

theorem logs_search (keyword : String) (page : Int) :
    Logs (c.search s keyword page) fun calls x => ∀ books, x = .ok books →
      (Text.trim keyword = "" ∧ calls = [] ∧ books = [])
      ∨ FoundBy calls (·.books s.searchRulesInUse.toListRules) fun page harvest =>
        List.Forall₂ (EntryFrom page) harvest.kept books := by
  unfold search
  refine logs_returns_bind quiet_requireBase fun _ _ => ?_
  dsimp only
  by_cases hkeyword : Text.trim keyword = ""
  · rw [if_pos hkeyword]
    refine (Routine.pure []).logs fun session => ?_
    rintro books ⟨⟩
    exact .inl ⟨hkeyword, rfl, rfl⟩
  · rw [if_neg hkeyword]
    by_cases htemplate : Text.trim (s.searchUrl.getD "") = ""
    · rw [if_pos htemplate]
      exact (Routine.throw _).logs fun session books h => nomatch h
    · rw [if_neg htemplate]
      refine logs_returns_bind (quiet_ofResult fun _ _ => trivial) fun url _ => ?_
      exact (logs_books hnet _).mono fun calls x h books hx => .inr (h books hx)

theorem logs_explore (page : Int) :
    Logs (c.explore s url page) fun calls x => ∀ books, x = .ok books →
      FoundBy calls (·.books s.exploreRulesInUse) fun page harvest =>
        List.Forall₂ (EntryFrom page) harvest.kept books := by
  unfold explore
  refine logs_returns_bind quiet_requireBase fun _ _ => ?_
  exact logs_returns_bind (quiet_ofResult fun _ _ => trivial) fun url _ => logs_books hnet _

/-- Details that are returned are the ones found on the page, with addresses from it. -/
theorem logs_detail (bookUrl : String) :
    Logs (c.detail s bookUrl) fun calls x => ∀ d, x = .ok d →
      FoundBy calls (·.detail s.detailRulesInUse) fun page found => DetailFrom page found d := by
  unfold detail
  refine logs_returns_bind quiet_requireBase fun _ _ => ?_
  refine logs_returns_bind (quiet_requireAddress _) fun _ _ => ?_
  refine logs_returns_bind (quiet_ofResult fun _ _ => trivial) fun url _ => ?_
  refine logs_load_bind hnet fun reply page hpage => ?_
  refine quiet_bind (quiet_ofResult fun found hfound => hfound) fun found hfound => ?_
  have hrest : ∀ toc, (if found.tocUrl = "" then toc
    = reply.url else Url.full reply.url found.tocUrl = .ok toc) → ¬ Url.IsRelative toc → Quiet (do
        let coverUrl ← Fetching.ofResult (resolved reply.url found.coverUrl)
        return { found with tocUrl := toc, coverUrl } : Fetching σ BookDetail)
        fun d => ∃ found, page.detail s.detailRulesInUse = .ok found
          ∧ DetailFrom reply.url found d := by
    intro toc htoc hfirm
    refine quiet_bind (quiet_ofResult fun cover hcover => AddressFrom.of_resolved hpage hcover)
      fun cover hcover => ?_
    exact quiet_pure ⟨found, hfound, rfl, htoc, hfirm, hcover⟩
  dsimp only
  by_cases hempty : found.tocUrl = ""
  · rw [if_pos hempty]
    refine quiet_bind (quiet_pure rfl) fun toc htoc => ?_
    subst htoc
    exact hrest _ (by rw [if_pos hempty]) (Url.not_isRelative (Url.hasScheme_of_isAbsolute hpage))
  · rw [if_neg hempty]
    refine quiet_bind (quiet_ofResult fun toc htoc => htoc) fun toc htoc => ?_
    exact hrest toc (by rwa [if_neg hempty]) (Url.not_isRelative (Url.full_hasScheme hpage htoc))

theorem logs_chapters (tocUrl : String) :
    Logs (c.chapters s tocUrl) fun calls x => ∀ chapters, x = .ok chapters →
      FoundBy calls (·.chapters s.tocRulesInUse) fun page harvest =>
        List.Forall₂ (ChapterFrom page) harvest.kept chapters := by
  unfold Client.chapters
  refine logs_returns_bind quiet_requireBase fun _ _ => ?_
  refine logs_returns_bind (quiet_requireAddress _) fun _ _ => ?_
  refine logs_returns_bind (quiet_ofResult fun _ _ => trivial) fun url _ => ?_
  refine logs_load_bind hnet fun reply page hpage => ?_
  refine quiet_bind (quiet_ofResult fun harvest hharvest => hharvest) fun harvest hharvest => ?_
  refine quiet_bind (quiet_reportSkipped _) fun _ _ => ?_
  have hall : Quiet (Fetching.ofResult (harvest.kept.mapM fun chapter =>
      (resolved reply.url chapter.url).map fun url =>
        { chapter with url }) : Fetching σ (List Chapter))
      fun chapters => ∃ found, page.chapters s.tocRulesInUse = .ok found
        ∧ List.Forall₂ (ChapterFrom reply.url) found.kept chapters := by
    refine Fetching.Quiet.mono (quiet_resolveAll (Φ := ChapterFrom reply.url) hpage
      fun chapter url hurl => ⟨rfl, hurl⟩) fun chapters hchapters => ?_
    exact ⟨harvest, hharvest, hchapters⟩
  by_cases hnone : harvest.kept.isEmpty = true
  · rw [if_pos hnone]
    exact quiet_throw _
  · rw [if_neg hnone]
    by_cases hfailed : harvest.failed ≠ 0
    · rw [if_pos hfailed]
      exact quiet_bind (quiet_notice _) fun _ _ => hall
    · rw [if_neg hfailed]
      exact hall

end Calls

/-- On a network whose replies have absolute addresses, a call that returns read one page, save
    a search for a blank keyword, which finds nothing.  The books, chapters or details that it
    returns are those that were found on the page, in order, with their addresses resolved
    against it; the page stands in for a table of contents that the details do not name.  None
    of these addresses is relative.  Only the covers of books in a list are not among them. -/
theorem records_are_resolved (c : Client σ) (s : Source) (hnet : c.network.AnswersAbsolutely) :
    (∀ keyword page, Logs (c.search s keyword page) fun calls x => ∀ books, x = .ok books →
      (Text.trim keyword = "" ∧ calls = [] ∧ books = [])
      ∨ FoundBy calls (·.books s.searchRulesInUse.toListRules) fun page harvest =>
        List.Forall₂ (EntryFrom page) harvest.kept books)
    ∧ (∀ url page, Logs (c.explore s url page) fun calls x => ∀ books, x = .ok books →
      FoundBy calls (·.books s.exploreRulesInUse) fun page harvest =>
        List.Forall₂ (EntryFrom page) harvest.kept books)
    ∧ (∀ bookUrl, Logs (c.detail s bookUrl) fun calls x => ∀ d, x = .ok d →
      FoundBy calls (·.detail s.detailRulesInUse) fun page found => DetailFrom page found d)
    ∧ (∀ tocUrl, Logs (c.chapters s tocUrl) fun calls x => ∀ chapters, x = .ok chapters →
      FoundBy calls (·.chapters s.tocRulesInUse) fun page harvest =>
        List.Forall₂ (ChapterFrom page) harvest.kept chapters) :=
  ⟨logs_search hnet, fun _ => logs_explore hnet, logs_detail hnet, logs_chapters hnet⟩

/-- Wherever it is asked, the network leads to one page, with a book on it. -/
def signpost : Client Unit where
  network := fun _ s =>
    (.reply ⟨"http://a/b/s", 200, "[\x7b\"u\":\"d\",\"c\":\"e\"\x7d]".toUTF8.toList, []⟩, s)
  policy := Task.oneLink.policy

def signpostSource : Source where
  url := "http://a"
  searchUrl := some "/s"
  searchRules := some { bookUrl := some "u", coverUrl := some "c" }
  detailRules := some { tocUrl := some "[0].u", coverUrl := some "[0].c" }

theorem signpost_answers : signpost.network.AnswersAbsolutely := by
  rintro r s reply ⟨⟩
  decide

theorem signpost_detail_resolved : signpost.network.AnswersAbsolutely
    ∧ ∃ d, (signpost.detail signpostSource "/d" (.start ())).1 = .ok d
      ∧ d.tocUrl = "http://a/b/d" ∧ ¬ Url.IsRelative d.tocUrl ∧ ¬ Url.IsRelative d.coverUrl := by
  obtain ⟨-, -, hdetail, -⟩ := records_are_resolved signpost signpostSource signpost_answers
  obtain ⟨calls, -, hreturns⟩ := hdetail "/d" (.start ())
  obtain ⟨d, hd, htoc⟩ :=
    exists_ok_of_any (x := (signpost.detail signpostSource "/d" (.start ())).1)
    (p := fun d => decide (d.tocUrl = "http://a/b/d")) (by decide +kernel)
  obtain ⟨call, reply, page, found, -, -, -, -, hfrom⟩ := hreturns d hd
  exact ⟨signpost_answers, d, hd, of_decide_eq_true htoc, hfrom.tocFirm, hfrom.cover.firm⟩

/-- A book is returned with the cover `e`, as it stands on the page `http://a/b/s`. -/
theorem listed_cover_hangs_on_page : signpost.network.AnswersAbsolutely
    ∧ ∃ b, (signpost.search signpostSource "k" 1 (.start ())).1 = .ok [b]
      ∧ b.url = "http://a/b/d" ∧ b.coverUrl = "e" ∧ Url.IsRelative b.coverUrl
      ∧ Url.full "http://a/b/s" "e" = .ok "http://a/b/e" := by
  obtain ⟨books, hbooks, hfound⟩ := exists_ok_of_any
    (x := (signpost.search signpostSource "k" 1 (.start ())).1)
    (p := fun books => decide (books = [⟨"", "", "http://a/b/d", "", "", "e", "", ""⟩]))
      (by decide +kernel)
  obtain rfl := of_decide_eq_true hfound
  exact ⟨signpost_answers, _, hbooks, rfl, rfl, by decide +kernel, by rfl⟩

end Client

end Gleaner
