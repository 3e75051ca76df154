/-
  Gleaner/Proofs/Client/Cache.lean
  ================================
  **A cache of chapters does not show.**  On a network that answers by address and headers
  alone, a client with a cache gives for every chapter what it gives without one, whatever it
  was asked for before (`cache_is_transparent`).

  One call does one of five things (`Serves`): it is refused before anything is asked, it
  finds its address in the cache, it fails, it reads a text without content, or it reads a
  text and keeps it.  All of them keep to what the entries of a cache are (`Extracted`): texts
  with content, each read from the reply to a fetch of the address under which it stands.
-/
import Gleaner.Client
import Gleaner.Proofs.Book.Cache
import Gleaner.Proofs.Debug.Course
import Gleaner.Proofs.Fetch.Steady

namespace Gleaner

variable {σ : Type}

namespace Client

open Fetching (Certain Settled Logs Routine logs_bind)

/-! ### Loading a page -/

section Load

variable {c : Client σ} {s : Source} {url : String}

theorem certain_load {answer : String → List (String × String) → Outcome}
    (hnet : c.network.Steady answer) (s : Source) (url : String) : Certain (c.load s url) := by
  unfold load Fetching.fetchOk
  refine (Fetching.certain_ofResult _).bind fun headers => Certain.bind ?_ fun reply => ?_
  · refine (Fetching.certain_fetch hnet c.policy url headers).bind fun reply => ?_
    split
    · exact Fetching.certain_pure reply
    · exact Fetching.certain_throw _
  · exact Certain.bind ⟨_, Fetching.receive_result _⟩ fun page => Fetching.certain_pure _

theorem certain_fetchText {answer : String → List (String × String) → Outcome}
    (hnet : c.network.Steady answer) (s : Source) (url : String) : Certain (c.fetchText s url) :=
  (certain_load hnet s url).bind fun _ => Fetching.certain_ofResult _

/-- Loading fails before a fetch is made, or makes one and gives what is read from it. -/
theorem load_reads (c : Client σ) (s : Source) (url : String) : Logs (c.load s url) fun calls x =>
    (calls = [] ∧ ∃ e, x = .error e)
    ∨ ∃ call : FetchCall, calls = [call] ∧ call.url = url ∧ call.MadeOn c.network c.policy
      ∧ ∀ a, x = .ok a ↔ call.read = .ok a := by
  unfold load Fetching.fetchOk
  refine logs_bind ((Routine.ofResult _).logs fun session => ?_)
  cases s.requestHeaders with
  | error e => exact .inl ⟨rfl, e, rfl⟩
  | ok headers =>
    refine logs_bind (logs_bind ((Fetching.logs_fetch c.network c.policy url headers).mono ?_))
    rintro calls (e | reply) ⟨rfl, hfetch⟩
    · refine .inr ⟨_, rfl, rfl, hfetch, fun a => ?_⟩
      rw [FetchCall.read_of_error (e := e) rfl]
    · dsimp only
      by_cases hok : reply.isOk = true
      · rw [if_pos hok]
        refine (Routine.pure reply).logs fun _ => ?_
        refine logs_bind ((Fetching.routine_receive _).logs fun session => ?_)
        rw [Fetching.receive_result]
        have hread := FetchCall.read_of_isOk (c := ⟨url, headers, .ok reply⟩) rfl hok
        cases hpage : Page.read (.bytes reply.body) with
        | error e =>
          rw [hpage] at hread
          refine .inr ⟨_, rfl, rfl, hfetch, fun a => ?_⟩
          rw [hread]
          simp [Except.map]
        | ok page =>
          rw [hpage] at hread
          refine (Routine.pure (reply, page)).logs fun _ => .inr ⟨_, rfl, rfl, hfetch, fun a => ?_⟩
          rw [hread]
          rfl
      · rw [if_neg hok]
        refine (Routine.throw _).logs fun _ => .inr ⟨_, rfl, rfl, hfetch, fun a => ?_⟩
        rw [FetchCall.read_of_not_isOk rfl hok]
        simp

/-- What is loaded was read by a fetch of the address, the only one that is made. -/
theorem logs_load (c : Client σ) (s : Source) (url : String) :
    Logs (c.load s url) fun calls x => ∀ a, x = .ok a → ∃ call : FetchCall, calls = [call]
      ∧ call.url = url ∧ call.MadeOn c.network c.policy ∧ call.read = .ok a := by
  refine (load_reads c s url).mono fun calls x h a ha => ?_
  rcases h with ⟨-, e, he⟩ | ⟨call, hcalls, hurl, hmade, hread⟩
  · rw [he] at ha
    cases ha
  · exact ⟨call, hcalls, hurl, hmade, (hread a).mp ha⟩

structure ReadAt (s : Source) (url : String) (text : ChapterText) (call : FetchCall) : Prop where
  address : call.url = url
  page : ∃ reply page, call.read = .ok (reply, page)
    ∧ page.chapterText s.contentRulesInUse = .ok text

/-- A text that was fetched was read from the reply of a fetch in the log. -/
theorem logs_fetchText (c : Client σ) (s : Source) (url : String) :
    Logs (c.fetchText s url) fun calls x =>
      ∀ text, x = .ok text → ∃ call ∈ calls, ReadAt s url text call := by
  unfold fetchText
  refine logs_bind ((logs_load c s url).mono ?_)
  rintro calls (e | ⟨reply, page⟩) hread
  · exact fun a h => nomatch h
  · obtain ⟨call, rfl, hurl, -, hcall⟩ := hread _ rfl
    refine (Routine.ofResult _).logs fun session => ?_
    intro text htext
    refine ⟨call, by simp, hurl, reply, page, hcall, ?_⟩
    cases hpage : page.chapterText s.contentRulesInUse with
    | error e => rw [hpage] at htext; cases htext
    | ok text' => rw [hpage] at htext; exact htext

end Load

/-! ### One call -/

def addressOf (s : Source) (chapterUrl : String) : Except Fault String :=
  if Text.allBlank s.url then .error (.config "Source has no bookSourceUrl" none)
  else if Text.allBlank chapterUrl then .error (.config "Chapter URL must not be empty" none)
  else Url.full s.url chapterUrl

theorem chapterAddress_run (s : Source) (chapterUrl : String) (session : Session σ) :
    chapterAddress s chapterUrl session = (addressOf s chapterUrl, session) := by
  unfold chapterAddress addressOf requireBase requireAddress
  by_cases hbase : Text.allBlank s.url = true
  · rw [if_pos hbase, if_pos hbase]
    rfl
  · rw [if_neg hbase, if_neg hbase]
    by_cases hblank : Text.allBlank chapterUrl = true
    · rw [if_pos hblank, if_pos hblank]
      rfl
    · rw [if_neg hblank, if_neg hblank]
      cases Url.full s.url chapterUrl with
      | error e => rfl
      | ok url => rfl

/-- What one call for a chapter does to a session with a cache, and its result. -/
inductive Serves (c : Client σ) (s : Source) (chapterUrl : String) (session : Session σ)
    (cache : ChapterCache) : Except Fault ChapterText → Session σ → ChapterCache → Prop
  /-- There is no address to ask for. -/
  | refused {e : Fault} (haddress : addressOf s chapterUrl = .error e) :
      Serves c s chapterUrl session cache (.error e) session cache
  | found {url : String} {text : ChapterText} (haddress : addressOf s chapterUrl = .ok url)
      (hfind : cache.find? url = some text) :
      Serves c s chapterUrl session cache (.ok text) session (cache.get url).2
  | failed {url : String} {e : Fault} {session' : Session σ}
      (haddress : addressOf s chapterUrl = .ok url)
      (hmiss : cache.find? url = none) (hfetch : c.fetchText s url session = (.error e, session')) :
      Serves c s chapterUrl session cache (.error e) session' cache
  /-- A text without content is not kept. -/
  | blank {url : String} {text : ChapterText} {session' : Session σ}
      (haddress : addressOf s chapterUrl = .ok url) (hmiss : cache.find? url = none)
      (hfetch : c.fetchText s url session = (.ok text, session')) (hblank : text.content = "") :
      Serves c s chapterUrl session cache (.ok text) session' cache
  | kept {url : String} {text : ChapterText} {session' : Session σ}
      (haddress : addressOf s chapterUrl = .ok url) (hmiss : cache.find? url = none)
      (hfetch : c.fetchText s url session = (.ok text, session')) (hcontent : text.content ≠ "") :
      Serves c s chapterUrl session cache (.ok text) session' (cache.put url text)

section Call

variable {c : Client σ} {s : Source} {chapterUrl : String} {session : Session σ}
  {cache : ChapterCache}

/-- A call for a chapter does one of the five things. -/
theorem content_serves (c : Client σ) (s : Source) (chapterUrl : String) (session : Session σ)
    (hroom : 0 ≤ cache.capacity) : ∃ result session' cache',
      c.content s chapterUrl ⟨session, some cache⟩ = (result, ⟨session', some cache'⟩)
        ∧ Serves c s chapterUrl session cache result session' cache' := by
  unfold content
  rw [bind_run, Reading.ofFetching]
  dsimp only
  rw [chapterAddress_run]
  cases haddress : addressOf s chapterUrl with
  | error e => exact ⟨_, _, _, rfl, .refused haddress⟩
  | ok url =>
    dsimp only
    rw [bind_run]
    unfold lookUp
    dsimp only
    cases hfind : cache.find? url with
    | some text =>
      refine ⟨.ok text, session, (cache.get url).2, ?_, .found haddress hfind⟩
      rw [ChapterCache.get_of_find? hfind]
      rfl
    | none =>
      rw [ChapterCache.get_of_miss hfind]
      dsimp only
      rw [bind_run, Reading.ofFetching]
      dsimp only
      rcases hfetch : c.fetchText s url session with ⟨e | text, session'⟩
      · exact ⟨_, _, _, rfl, .failed haddress hfind hfetch⟩
      · dsimp only
        rw [bind_run]
        unfold keep
        dsimp only
        by_cases hblank : text.content = ""
        · rw [if_pos hblank]
          exact ⟨_, _, _, rfl, .blank haddress hfind hfetch hblank⟩
        · rw [if_neg hblank]
          unfold ChapterCache.store
          rw [if_neg (Int.not_lt.mpr hroom)]
          exact ⟨_, _, _, rfl, .kept haddress hfind hfetch hblank⟩

/-- Without a cache a chapter comes to what its address comes to. -/
theorem content_uncached (c : Client σ) (s : Source) (chapterUrl : String) (session : Session σ) :
    (c.content s chapterUrl ⟨session, none⟩).1
      = (addressOf s chapterUrl).bind fun url => (c.fetchText s url session).1 := by
  unfold content
  rw [bind_run, Reading.ofFetching]
  dsimp only
  rw [chapterAddress_run]
  cases haddress : addressOf s chapterUrl with
  | error e => rfl
  | ok url =>
    dsimp only [Except.bind]
    rw [bind_run]
    unfold lookUp
    dsimp only
    rw [bind_run, Reading.ofFetching]
    dsimp only
    rcases hfetch : c.fetchText s url session with ⟨e | text, session'⟩ <;> rfl

theorem full_of_addressOf {url : String} (h : addressOf s chapterUrl = .ok url) :
    Url.full s.url chapterUrl = .ok url := by
  unfold addressOf at h
  split at h
  · cases h
  · split at h
    · cases h
    · exact h

end Call

/-! ### What the entries of a cache are -/

/-- An entry is a text with content, read from the reply to a fetch of the full address of a
    chapter that was asked for; the address still gives this text. -/
structure Extracted (c : Client σ) (s : Source) (before : List String) (session : Session σ)
    (url : String) (text : ChapterText) : Prop where
  content : text.content ≠ ""
  wanted : ∃ chapterUrl ∈ before, Url.full s.url chapterUrl = .ok url
  read : ∃ call ∈ session.fetches, ReadAt s url text call
  lasting : Settled (c.fetchText s url) (.ok text)

structure Sound (c : Client σ) (s : Source) (before : List String) (session : Session σ)
    (cache : ChapterCache) : Prop where
  room : 0 ≤ cache.capacity
  entries : ∀ url text, (url, text) ∈ cache.entries → Extracted c s before session url text

section Calls

variable {c : Client σ} {s : Source} {before : List String} {session session' : Session σ}
  {cache cache' : ChapterCache} {chapterUrl : String} {result : Except Fault ChapterText}

theorem sound_empty (c : Client σ) (s : Source) (session : Session σ) {capacity : Int}
    (hroom : 0 ≤ capacity) :
    Sound c s [] session (.empty capacity) where
  room := hroom
  entries := fun _ _ hmem => nomatch hmem

/-- Further calls and further fetches do not change what an entry is. -/
theorem Extracted.later {url : String} {text : ChapterText}
    (h : Extracted c s before session url text) (chapterUrl : String)
    (hlog : ∀ call ∈ session.fetches, call ∈ session'.fetches) :
    Extracted c s (before ++ [chapterUrl]) session' url text where
  content := h.content
  wanted := by
    obtain ⟨asked, hasked, hurl⟩ := h.wanted
    exact ⟨asked, List.mem_append_left _ hasked, hurl⟩
  read := by
    obtain ⟨call, hcall, hread⟩ := h.read
    exact ⟨call, hlog call hcall, hread⟩
  lasting := h.lasting

theorem Sound.later (h : Sound c s before session cache) (chapterUrl : String)
    (hlog : ∀ call ∈ session.fetches, call ∈ session'.fetches) :
    Sound c s (before ++ [chapterUrl]) session' cache where
  room := h.room
  entries := fun url text hmem => (h.entries url text hmem).later chapterUrl hlog

/-- One call keeps a cache sound. -/
theorem Serves.sound {answer : String → List (String × String) → Outcome}
    (hnet : c.network.Steady answer)
    (h : Serves c s chapterUrl session cache result session' cache')
    (hsound : Sound c s before session cache) :
    Sound c s (before ++ [chapterUrl]) session' cache' := by
  have hlog : ∀ {url x session'}, c.fetchText s url session = (x, session') →
      (∀ call ∈ session.fetches, call ∈ session'.fetches)
        ∧ ∀ text, x = .ok text → ∃ call ∈ session'.fetches, ReadAt s url text call := by
    intro url x session' hfetch
    obtain ⟨calls, hcalls, hread⟩ := logs_fetchText c s url session
    rw [hfetch] at hcalls hread
    refine ⟨fun call hcall => ?_, fun text htext => ?_⟩
    · rw [hcalls]
      exact List.mem_append_left _ hcall
    · obtain ⟨call, hcall, hat⟩ := hread text htext
      exact ⟨call, by rw [hcalls]; exact List.mem_append_right _ hcall, hat⟩
  cases h with
  | refused haddress => exact hsound.later chapterUrl fun _ hcall => hcall
  | found haddress hfind =>
    have hlater : Sound c s (before ++ [chapterUrl]) session cache :=
      hsound.later chapterUrl fun _ hcall => hcall
    refine ⟨?_, fun url text hmem => hlater.entries url text (ChapterCache.mem_get hmem)⟩
    rw [ChapterCache.capacity_get]
    exact hsound.room
  | failed haddress hmiss hfetch => exact hsound.later chapterUrl (hlog hfetch).1
  | blank haddress hmiss hfetch hblank => exact hsound.later chapterUrl (hlog hfetch).1
  | kept haddress hmiss hfetch hcontent =>
    obtain ⟨hgrows, hread⟩ := hlog hfetch
    have hlater := hsound.later chapterUrl hgrows
    refine ⟨by rw [ChapterCache.capacity_put]; exact hsound.room, fun url text hmem => ?_⟩
    rcases ChapterCache.mem_put hmem with hnew | hold
    · cases hnew
      exact {
        content := hcontent
        wanted := ⟨chapterUrl, by simp, full_of_addressOf haddress⟩
        read := hread _ rfl
        lasting := (certain_fetchText hnet s _).settled (congrArg Prod.fst hfetch) }
    · exact hlater.entries url text hold

def deskAfter (c : Client σ) (s : Source) (chapterUrls : List String) (desk : Desk σ) : Desk σ :=
  chapterUrls.foldl (fun desk chapterUrl => (c.content s chapterUrl desk).2) desk

/-- A sound cache stays sound along further calls, by induction on them. -/
theorem sound_deskAfter {answer : String → List (String × String) → Outcome}
    (hnet : c.network.Steady answer) (more : List String)
    (hsound : Sound c s before session cache) : ∃ session' cache',
      c.deskAfter s more ⟨session, some cache⟩ = ⟨session', some cache'⟩
        ∧ Sound c s (before ++ more) session' cache' := by
  induction more generalizing before session cache with
  | nil => exact ⟨session, cache, rfl, by rwa [List.append_nil]⟩
  | cons chapterUrl more ih =>
    obtain ⟨result, session₁, cache₁, hcontent, hserves⟩ :=
      content_serves c s chapterUrl session hsound.room
    obtain ⟨session', cache', hdesk, hsound'⟩ := ih (hserves.sound hnet hsound)
    refine ⟨session', cache', ?_, by rwa [List.append_assoc] at hsound'⟩
    unfold deskAfter at hdesk ⊢
    rw [List.foldl_cons, hcontent]
    exact hdesk

/-- With a sound cache a call has the result that it has without one. -/
theorem Serves.same {answer : String → List (String × String) → Outcome}
    (hnet : c.network.Steady answer)
    (h : Serves c s chapterUrl session cache result session' cache')
    (hsound : Sound c s before session cache) (other : Session σ) :
    result = (c.content s chapterUrl ⟨other, none⟩).1 := by
  rw [content_uncached]
  have hsame : ∀ {url x session'}, c.fetchText s url session = (x, session') →
      x = (c.fetchText s url other).1 := by
    intro url x session' hfetch
    rw [← (certain_fetchText hnet s url).same session other, hfetch]
  cases h with
  | refused haddress => rw [haddress]; rfl
  | found haddress hfind =>
    rw [haddress]
    exact ((hsound.entries _ _ (ChapterCache.mem_of_find? hfind)).lasting other).symm
  | failed haddress hmiss hfetch => rw [haddress]; exact hsame hfetch
  | blank haddress hmiss hfetch hblank => rw [haddress]; exact hsame hfetch
  | kept haddress hmiss hfetch hcontent => rw [haddress]; exact hsame hfetch

/-- A call for a chapter whose address is held leaves the session alone. -/
theorem Serves.session_eq {url : String}
    (h : Serves c s chapterUrl session cache result session' cache')
    (hurl : Url.full s.url chapterUrl = .ok url) (hheld : cache.contains url = true) :
    session' = session := by
  obtain ⟨text, hfind⟩ := ChapterCache.find?_of_contains hheld
  have hhit : ∀ {url'}, addressOf s chapterUrl = .ok url' → cache.find? url' ≠ none := by
    intro url' haddress
    obtain rfl : url = url' := Except.ok.inj (hurl.symm.trans (full_of_addressOf haddress))
    rw [hfind]
    exact Option.some_ne_none text
  cases h with
  | refused haddress => rfl
  | found haddress hfind => rfl
  | failed haddress hmiss hfetch => exact absurd hmiss (hhit haddress)
  | blank haddress hmiss hfetch hblank => exact absurd hmiss (hhit haddress)
  | kept haddress hmiss hfetch hcontent => exact absurd hmiss (hhit haddress)

/-- A call that fails or gives no content leaves a sound cache alone. -/
theorem Serves.cache_eq (h : Serves c s chapterUrl session cache result session' cache')
    (hsound : Sound c s before session cache)
    (hnone : ∀ text, result = .ok text → text.content = "") :
    cache' = cache := by
  cases h with
  | refused haddress => rfl
  | found haddress hfind =>
    have hentry := hsound.entries _ _ (ChapterCache.mem_of_find? hfind)
    exact absurd (hnone _ rfl) hentry.content
  | failed haddress hmiss hfetch => rfl
  | blank haddress hmiss hfetch hblank => rfl
  | kept haddress hmiss hfetch hcontent => exact absurd (hnone _ rfl) hcontent

end Calls

/-- On a network that answers by address and headers, whatever a client with a cache was asked
    for before: the next call has the result that it has without a cache; what is held are texts
    with content under the full addresses from which they were read; a call for an address that
    is held asks for nothing; and one that fails or gives no content leaves the cache as it is,
    in the same order. -/
theorem cache_is_transparent (c : Client σ) (s : Source)
    (answer : String → List (String × String) → Outcome) (hnet : c.network.Steady answer)
    (capacity : Int) (hroom : 0 ≤ capacity) (start : Session σ) (before : List String)
    (chapterUrl : String) :
    ∃ session cache, c.deskAfter s before ⟨start, some (.empty capacity)⟩ = ⟨session, some cache⟩
      ∧ (∀ other, (c.content s chapterUrl ⟨session, some cache⟩).1
        = (c.content s chapterUrl ⟨other, none⟩).1)
      ∧ (∀ url text, (url, text) ∈ cache.entries → c.Extracted s before session url text)
      ∧ (∀ url, Url.full s.url chapterUrl = .ok url → cache.contains url = true →
        (c.content s chapterUrl ⟨session, some cache⟩).2.session = session)
      ∧ ((∀ text, (c.content s chapterUrl ⟨session, some cache⟩).1 = .ok text → text.content = "") →
        (c.content s chapterUrl ⟨session, some cache⟩).2.cache = some cache) := by
  obtain ⟨session, cache, hdesk, hsound⟩ :=
    sound_deskAfter hnet before (sound_empty c s start hroom)
  rw [List.nil_append] at hsound
  obtain ⟨result, session', cache', hcontent, hserves⟩ :=
    content_serves c s chapterUrl session hsound.room
  refine ⟨session, cache, hdesk, ?_, hsound.entries, ?_, ?_⟩
  · intro other
    rw [hcontent]
    exact hserves.same hnet hsound other
  · intro url hurl hheld
    rw [hcontent]
    exact hserves.session_eq hurl hheld
  · rw [hcontent]
    intro hnone
    rw [hserves.cache_eq hsound hnone]

/-- A source whose chapters are read from the site with one link. -/
def chapterSource : Source :=
  { url := "http://a", contentRules := some { content := some "[0].u" } }

def oneLink : Client Unit := ⟨.mirror Surroundings.oneLinkBody, Task.oneLink.policy⟩

/-- Room for one chapter, which is asked for again by its full address. -/
theorem oneLink_asks_once : ∃ session cache,
    oneLink.deskAfter chapterSource ["/b", "/c"] ⟨.start (), some (.empty 1)⟩
      = ⟨session, some cache⟩
      ∧ cache.keys = ["http://a/c"]
      ∧ (oneLink.content chapterSource "http://a/c" ⟨session, some cache⟩).2.session = session := by
  obtain ⟨session, cache, hdesk, -, -, hheld, -⟩ := cache_is_transparent oneLink chapterSource
    (fun url _ => .reply ⟨url, 200, Surroundings.oneLinkBody.toUTF8.toList, []⟩) (fun _ _ => rfl)
    1 (by decide) (.start ()) ["/b", "/c"] "http://a/c"
  have hkeys : (oneLink.deskAfter chapterSource ["/b", "/c"] ⟨.start (), some (.empty 1)⟩).cache.map
      ChapterCache.keys = some ["http://a/c"] := by
    decide +kernel
  rw [hdesk] at hkeys
  have hcache : cache.keys = ["http://a/c"] := Option.some.inj hkeys
  refine ⟨session, cache, hdesk, hcache, hheld "http://a/c" (by decide +kernel) ?_⟩
  unfold ChapterCache.contains
  rw [hcache]
  decide

end Client

end Gleaner
