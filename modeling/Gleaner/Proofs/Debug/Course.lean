/-
  Gleaner/Proofs/Debug/Course.lean
  ================================
  **The course of a run.**  A run goes from one position to the next: a stage with what it
  starts from.  From a position it arrives at a page (`Arrives`), and what the rules of
  the stage make of the page decides where it goes from there (`Position.yield`).
  `Course` puts these steps together, and every run follows one (`run_course`), whatever
  the network answers and wherever the run is stopped.

  The fetches of a run and the course they are made on determine how the run ends
  (`Course.unique`), unless it is stopped.
-/
import Gleaner.Proofs.Debug.Step
import Gleaner.Proofs.Fault

namespace Gleaner

variable {σ α β : Type}

/-! ### Positions -/

/-- A stage that a run comes to, with what it starts from. -/
inductive Position where
  | search (keyword : String)
  /-- The address, which stands on a page unless it is the keyword of the run. -/
  | detail (page : Option String) (url : String)
  /-- The details, and the page that they are on. -/
  | toc (book : BookDetail) (reply : Reply) (page : Page)
  /-- The address of the first chapter, as it stands on the page of the chapters. -/
  | text (page first : String)

inductive Lead where
  | to (next : Position)
  | nowhere
  | home

namespace Position

/-- Where a run starts: a keyword that is an address leads straight to the details. -/
def start (keyword : String) : Position :=
  if Url.isAbsolute keyword.toList then .detail none keyword else .search keyword

def stage : Position → Stage
  | .search _ => .search
  | .detail .. => .detail
  | .toc .. => .toc
  | .text .. => .content

/-- The address of the page that the stage needs; none if it is the page at hand. -/
def address (t : Task) : Position → Except Fault (Option String)
  | .search keyword =>
      (Url.searchUrl t.source.url (Running.searchTemplate t.source) keyword 1).map some
  | .detail none url => .ok (some url)
  | .detail (some page) url => (Url.full page url).map some
  | .toc book reply _ =>
      if book.tocUrl = "" then .ok none else (Url.full reply.url book.tocUrl).map some
  | .text page first => (Url.full page first).map some

/-- To a position, if the first item of a list has an address to go to. -/
def leadTo (url : α → String) (items : List α) (next : String → Position) : Lead :=
  let first := (items.map url).headD ""
  if first = "" then .nowhere else .to (next first)

/-- What a stage adds to the findings `f` when it reads its page, and where it leads. -/
def yield (t : Task) (f : Findings) (x : Reply × Page) : Position → Except Fault (Findings × Lead)
  | .search _ => (x.2.books t.source.searchRulesInUse.toListRules).map fun h =>
      ({ f with search := h.kept }, leadTo (·.url) h.kept fun first => .detail (some x.1.url) first)
  | .detail .. => (x.2.detail t.source.detailRulesInUse).map fun d =>
      ({ f with detail := some d }, .to (.toc d x.1 x.2))
  | .toc .. => (x.2.chapters t.source.tocRulesInUse).map fun h =>
      ({ f with chapters := h.kept }, leadTo (·.url) h.kept fun first => .text x.1.url first)
  | .text .. => (x.2.chapterText t.source.contentRulesInUse).map fun text =>
      ({ f with content := some text }, .home)

theorem leadTo_cases (url : α → String) (items : List α) (next : String → Position) :
    (∃ a more, items = a :: more ∧ url a ≠ "" ∧ leadTo url items next = .to (next (url a)))
      ∨ (items = [] ∨ ∃ a more, items = a :: more ∧ url a = "")
        ∧ leadTo url items next = .nowhere := by
  cases items with
  | nil => exact .inr ⟨.inl rfl, rfl⟩
  | cons a more =>
    by_cases h : url a = ""
    · exact .inr ⟨.inr ⟨a, more, rfl, h⟩, if_pos h⟩
    · exact .inl ⟨a, more, rfl, h, if_neg h⟩

/-- An address that cannot be made is no fault of a stage: it ends the run with itself. -/
theorem address_fault {t : Task} {p : Position} {e : Fault} (h : p.address t = .error e) :
    e.endsStage = false := by
  have hbad : (∃ m, e = .badValue m) → e.endsStage = false := by
    rintro ⟨m, rfl⟩
    exact Fault.endsStage_badValue m
  apply hbad
  unfold address at h
  split at h
  · exact Url.searchUrl_fault (map_eq_error.mp h)
  · cases h
  · exact Url.full_fault (map_eq_error.mp h)
  · split at h
    · cases h
    · exact Url.full_fault (map_eq_error.mp h)
  · exact Url.full_fault (map_eq_error.mp h)

end Position

/-! ### Steps from position to position -/

/-- What comes of going to the page that a position needs: the fetches made for it, and
    what was read. -/
inductive Arrives (t : Task) : Position → List FetchCall → Except Fault (Reply × Page) → Prop
  /-- The address cannot be made. -/
  | lost {p : Position} {e : Fault} (h : p.address t = .error e) : Arrives t p [] (.error e)
  | loads {p : Position} {url : String} {cs : List FetchCall} {x : Except Fault (Reply × Page)}
      (h : p.address t = .ok (some url)) (hx : Loads t url cs x) : Arrives t p cs x
  /-- The chapters are on the page of the details. -/
  | there {book : BookDetail} {reply : Reply} {page : Page} (h : book.tocUrl = "") :
      Arrives t (.toc book reply page) [] (.ok (reply, page))

/-- Unless the page is at hand or a fault that no stage accounts for comes up before, one
    fetch is made, and what is read is what it gives. -/
theorem Arrives.made {t : Task} {p : Position} {cs : List FetchCall}
    {x : Except Fault (Reply × Page)} (h : Arrives t p cs x)
    (hx : ∀ e, x = .error e → e.endsStage = true) :
    (∃ book reply page, p = .toc book reply page ∧ book.tocUrl = "" ∧ cs = []
      ∧ x = .ok (reply, page))
      ∨ ∃ c, cs = [c] ∧ p.address t = .ok (some c.url) ∧ t.source.requestHeaders = .ok c.headers
        ∧ x = c.read := by
  cases h with
  | lost ha =>
    have hends := hx _ rfl
    rw [Position.address_fault ha] at hends
    cases hends
  | loads ha hl =>
    cases hl with
    | unasked hh =>
      obtain ⟨m, rfl⟩ := Source.requestHeaders_fault hh
      have hends := hx _ rfl
      cases hends
    | asked c hurl hh =>
      subst hurl
      exact .inr ⟨c, rfl, ha, hh, rfl⟩
  | there htoc => exact .inl ⟨_, _, _, rfl, htoc, rfl, rfl⟩

inductive Upshot where
  /-- At the boundary before a stage. -/
  | stopped
  | failed (stage : Stage) (e : Fault)
  | stuck (stage : Stage)
  | home

def Upshot.halt : Upshot → Except Halt Unit
  | .stopped => .error (.ended .stopped)
  | .failed stage e => .error (if e.endsStage then .ended (.aborted stage) else .fault e)
  | .stuck stage => .error (.ended (.aborted stage))
  | .home => .ok ()

/-- How a run with this upshot ends, or the fault that it ends with instead. -/
def Upshot.ending : Upshot → Except Fault Ending
  | .stopped => .ok .stopped
  | .failed stage e => if e.endsStage then .ok (.aborted stage) else .error e
  | .stuck stage => .ok (.aborted stage)
  | .home => .ok .completed

theorem Upshot.endsStage_of_ending {stage : Stage} {e : Fault} {ending : Ending}
    (h : (Upshot.failed stage e).ending = .ok ending) : e.endsStage = true := by
  cases he : e.endsStage with
  | true => rfl
  | false =>
    simp only [Upshot.ending, he] at h
    cases h

/-- From a position and findings, the fetches of the rest of a run, the findings that it
    ends with and how it ends. -/
inductive Course (t : Task) : Position → Findings → List FetchCall → Findings → Upshot → Prop
  /-- There is no boundary before a search. -/
  | stopped {p : Position} {f : Findings} (h : p.stage ≠ .search) : Course t p f [] f .stopped
  | failed {p : Position} {f : Findings} {cs : List FetchCall} {x : Except Fault (Reply × Page)}
      {e : Fault} (h : Arrives t p cs x) (hx : (x.bind fun y => p.yield t f y) = .error e) :
      Course t p f cs f (.failed p.stage e)
  | stuck {p : Position} {f f' : Findings} {cs : List FetchCall} {x : Reply × Page}
      (h : Arrives t p cs (.ok x)) (hx : p.yield t f x = .ok (f', .nowhere)) :
      Course t p f cs f' (.stuck p.stage)
  | home {p : Position} {f f' : Findings} {cs : List FetchCall} {x : Reply × Page}
      (h : Arrives t p cs (.ok x)) (hx : p.yield t f x = .ok (f', .home)) : Course t p f cs f' .home
  | onward {p q : Position} {f f' f'' : Findings} {cs cs' : List FetchCall} {x : Reply × Page}
      {u : Upshot} (h : Arrives t p cs (.ok x)) (hx : p.yield t f x = .ok (f', .to q))
      (hq : Course t q f' cs' f'' u) : Course t p f (cs ++ cs') f'' u

/-! ### Runs follow courses -/

namespace Running

section Following

variable {net : Network σ} {env : Surroundings σ} {t : Task} {f : Findings} {p : Position}

def Follows (t : Task) (p : Position) (f : Findings) : Post Unit :=
  fun cs f' result => ∃ u, Course t p f cs f' u ∧ result = u.halt

def Reads (t : Task) (p : Position) (f : Findings) (g : Reply × Page → Except Fault α) : Post α :=
  fun cs f' result => f' = f ∧ ∃ x, Arrives t p cs x ∧ result = (x.bind g).mapError .fault

/-- A stage and what comes after it.  Where the stage fails the course does. -/
theorem spec_stage_then {pol : FetchPolicy} {work : Running σ α} {g : Reply × Page → Except Fault α}
    {k : α → Running σ β} {Ψ : Post β} (hwork : Spec net pol work f (Reads t p f g))
    (hg : ∀ x e, g x = .error e → p.yield t f x = .error e)
    (hfail : ∀ cs e, Course t p f cs f (.failed p.stage e) →
      Ψ cs f (.error (if e.endsStage then .ended (.aborted p.stage) else .fault e)))
    (hk : ∀ cs x a, Arrives t p cs (.ok x) → g x = .ok a →
      Spec net pol (k a) f fun cs' => Ψ (cs ++ cs')) :
    Spec net pol (stage env p.stage work >>= k) f Ψ := by
  have hfault : ∀ cs e, Course t p f cs f (.failed p.stage e) →
      before net pol k Ψ cs f (staged p.stage (.error (.fault e))) := by
    intro cs e hcourse
    rw [staged_fault]
    exact hfail cs e hcourse
  refine spec_bind (spec_stage (hwork.mono ?_))
  rintro cs f' result ⟨rfl, x, hx, rfl⟩
  cases x with
  | error e => exact hfault cs e (.failed hx rfl)
  | ok x =>
    change before net pol k Ψ cs f' (staged p.stage ((g x).mapError .fault))
    cases hgx : g x with
    | error e => exact hfault cs e (.failed hx (hg x e hgx))
    | ok a => exact hk cs x a hx hgx

theorem spec_shown {pol : FetchPolicy} {y : Except Fault α} {lines : α → List String} {b : α → β} :
    Spec net pol (ofResult y >>= fun a => logAll env (lines a) >>= fun _ => pure (b a)) f
      (Gives f ((y.map b).mapError .fault)) := by
  refine spec_bind (spec_ofResult ?_)
  cases y with
  | error e => exact ⟨rfl, rfl, rfl⟩
  | ok a =>
    refine spec_then (spec_logAll _) (spec_pure ?_)
    exact ⟨rfl, rfl, rfl⟩

theorem spec_load_reads {url : String} {g : Reply × Page → Except Fault α}
    {k : Reply × Page → Running σ α} (h : p.address t = .ok (some url))
    (hk : ∀ x, Spec env.network t.policy (k x) f (Gives f ((g x).mapError .fault))) :
    Spec env.network t.policy (load env t url >>= k) f (Reads t p f g) := by
  refine spec_bind (spec_load fun cs x hx => ?_)
  have harrives : Arrives t p cs x := .loads h hx
  cases x with
  | error e => exact ⟨rfl, .error e, harrives, rfl⟩
  | ok x =>
    refine (hk x).mono ?_
    rintro cs' f' result ⟨rfl, rfl, rfl⟩
    exact ⟨rfl, .ok x, by rwa [List.append_nil], rfl⟩

/-! #### Stages -/

/-- The search reads the books from its page. -/
theorem spec_searchStage {keyword : String} :
    Spec env.network t.policy (searchStage env t keyword) f
      (Reads t (.search keyword) f fun x =>
        (x.2.books t.source.searchRulesInUse.toListRules).map fun h => (h.kept, x.1.url)) := by
  unfold searchStage heading
  refine spec_then (spec_logAll _) (spec_then (spec_log _) (spec_bind (spec_ofResult ?_)))
  have haddress : (Position.search keyword).address t
      = (Url.searchUrl t.source.url (searchTemplate t.source) keyword 1).map some := by
    simp only [Position.address]
  cases hurl : Url.searchUrl t.source.url (searchTemplate t.source) keyword 1 with
  | error e => exact ⟨rfl, .error e, .lost (haddress.trans (map_eq_error.mpr hurl)), rfl⟩
  | ok url =>
    refine spec_then (spec_log _) (spec_load_reads ?_ fun x => spec_shown)
    exact haddress.trans (map_eq_ok.mpr ⟨url, hurl, rfl⟩)

theorem spec_detailStage {page : Option String} {first url : String}
    (h : (Position.detail page first).address t = .ok (some url)) :
    Spec env.network t.policy (detailStage env t url) f
      (Reads t (.detail page first) f fun x =>
        (x.2.detail t.source.detailRulesInUse).map fun d => (d, x.1, x.2)) := by
  unfold detailStage heading
  exact spec_then (spec_logAll _) (spec_load_reads h fun x => spec_shown)

theorem spec_chaptersOn {pol : FetchPolicy} {x : Reply × Page} :
    Spec net pol (chaptersOn env t x.2 >>= fun chapters => pure (chapters, x.1.url)) f
      (Gives f (((x.2.chapters t.source.tocRulesInUse).map fun h =>
        (h.kept, x.1.url)).mapError .fault)) := by
  refine spec_bind (spec_shown.mono ?_)
  rintro cs f' result ⟨rfl, rfl, rfl⟩
  cases x.2.chapters t.source.tocRulesInUse with
  | error e => exact ⟨rfl, rfl, rfl⟩
  | ok h =>
    refine spec_pure ?_
    exact ⟨rfl, rfl, rfl⟩

/-- The table of contents is read from a page of its own or, without one, from that of the
    details. -/
theorem spec_tocStage {book : BookDetail} {reply : Reply} {page : Page} :
    Spec env.network t.policy (tocStage env t book reply page) f
      (Reads t (.toc book reply page) f fun x =>
        (x.2.chapters t.source.tocRulesInUse).map fun h => (h.kept, x.1.url)) := by
  unfold tocStage
  by_cases htoc : book.tocUrl = ""
  · rw [if_pos htoc]
    refine spec_then (spec_logAll _) (spec_then (spec_log _) (spec_then (spec_log _) ?_))
    refine (spec_chaptersOn (x := (reply, page))).mono ?_
    rintro cs f' result ⟨rfl, rfl, rfl⟩
    exact ⟨rfl, .ok (reply, page), .there htoc, rfl⟩
  · rw [if_neg htoc]
    have haddress : (Position.toc book reply page).address t
        = (Url.full reply.url book.tocUrl).map some := if_neg htoc
    refine spec_bind (spec_ofResult ?_)
    cases hurl : Url.full reply.url book.tocUrl with
    | error e => exact ⟨rfl, .error e, .lost (haddress.trans (map_eq_error.mpr hurl)), rfl⟩
    | ok url =>
      refine spec_then (spec_logAll _) (spec_load_reads ?_ fun x => spec_chaptersOn)
      exact haddress.trans (map_eq_ok.mpr ⟨url, hurl, rfl⟩)

theorem spec_contentStage {page first url : String}
    (h : (Position.text page first).address t = .ok (some url)) :
    Spec env.network t.policy (contentStage env t url) f
      (Reads t (.text page first) f fun x => x.2.chapterText t.source.contentRulesInUse) := by
  unfold contentStage heading
  refine spec_then (spec_logAll _) (spec_load_reads h fun x => ?_)
  refine (spec_shown (b := id)).mono ?_
  rintro cs f' result ⟨rfl, rfl, rfl⟩
  cases x.2.chapterText t.source.contentRulesInUse <;> exact ⟨rfl, rfl, rfl⟩

/-! #### From stage to stage -/

theorem follows_lost {e : Fault} (h : p.address t = .error e) :
    Follows t p f [] f (.error (.fault e)) := by
  refine ⟨.failed p.stage e, .failed (.lost h) rfl, ?_⟩
  simp [Upshot.halt, Position.address_fault h]

theorem follows_failed {cs : List FetchCall} {e : Fault}
    (h : Course t p f cs f (.failed p.stage e)) :
    Follows t p f cs f (.error (if e.endsStage then .ended (.aborted p.stage) else .fault e)) :=
  ⟨_, h, rfl⟩

theorem spec_boundary_then {pol : FetchPolicy} {k : Unit → Running σ Unit} (hp : p.stage ≠ .search)
    (hk : Spec net pol (k ()) f (Follows t p f)) :
    Spec net pol (boundary env >>= k) f (Follows t p f) :=
  spec_bind (spec_boundary hk ⟨.stopped, .stopped hp, rfl⟩)

theorem spec_stuck {pol : FetchPolicy} {k : α → Running σ Unit} {f' : Findings}
    {cs : List FetchCall} {x : Reply × Page} (hx : Arrives t p cs (.ok x))
    (hlead : p.yield t f x = .ok (f', .nowhere)) :
    Spec net pol (abort env p.stage >>= k) f' fun cs' => Follows t p f (cs ++ cs') := by
  refine spec_bind (spec_abort ?_)
  refine ⟨.stuck p.stage, ?_, rfl⟩
  rw [List.append_nil]
  exact .stuck hx hlead

theorem spec_onward {pol : FetchPolicy} {work : Running σ Unit} {q : Position} {f' : Findings}
    {cs : List FetchCall} {x : Reply × Page} (hx : Arrives t p cs (.ok x))
    (hlead : p.yield t f x = .ok (f', .to q)) (h : Spec net pol work f' (Follows t q f')) :
    Spec net pol work f' fun cs' => Follows t p f (cs ++ cs') := by
  refine h.mono ?_
  rintro cs' f'' result ⟨u, hcourse, rfl⟩
  exact ⟨u, .onward hx hlead hcourse, rfl⟩

/-- From the boundary before the text, the rest of a run follows its course; so do the two
    lemmas below, each from the one before it. -/
theorem spec_fromText {page first : String} :
    Spec env.network t.policy (fromText env t page first) f (Follows t (.text page first) f) := by
  unfold fromText
  refine spec_boundary_then (by simp [Position.stage]) (spec_bind (spec_ofResult ?_))
  cases hurl : Url.full page first with
  | error e => exact follows_lost (map_eq_error.mpr hurl)
  | ok url =>
    have haddress : (Position.text page first).address t = .ok (some url) :=
      map_eq_ok.mpr ⟨url, hurl, rfl⟩
    refine spec_stage_then (p := .text page first) (spec_contentStage haddress) ?_
      (fun _ _ => follows_failed) ?_
    · intro x e he
      exact map_eq_error.mpr he
    · intro cs x text hx htext
      refine spec_then (spec_found _) ((spec_logAll _).mono ?_)
      rintro cs' f' result ⟨rfl, rfl, rfl⟩
      refine ⟨.home, ?_, rfl⟩
      rw [List.append_nil]
      exact .home hx (map_eq_ok.mpr ⟨text, htext, rfl⟩)

theorem spec_fromChapters {book : BookDetail} {reply : Reply} {page : Page} :
    Spec env.network t.policy (fromChapters env t book reply page) f
      (Follows t (.toc book reply page) f) := by
  unfold fromChapters
  refine spec_boundary_then (by simp [Position.stage]) ?_
  refine spec_stage_then (p := .toc book reply page) spec_tocStage ?_ (fun _ _ => follows_failed) ?_
  · intro x e he
    exact map_eq_error.mpr (map_eq_error.mp he)
  · intro cs x found hx hfound
    obtain ⟨h, hh, rfl⟩ := map_eq_ok.mp hfound
    have hyield : (Position.toc book reply page).yield t f x = .ok ({ f with chapters := h.kept },
        Position.leadTo (·.url) h.kept fun first => .text x.1.url first) :=
      map_eq_ok.mpr ⟨h, hh, rfl⟩
    unfold Position.leadTo at hyield
    refine spec_then (spec_found _) ?_
    by_cases hfirst : (h.kept.map (·.url)).headD "" = ""
    · rw [if_pos hfirst] at hyield
      simp only [hfirst, if_true]
      exact spec_stuck (p := .toc book reply page) hx hyield
    · rw [if_neg hfirst] at hyield
      simp only [hfirst, if_false]
      exact spec_onward hx hyield spec_fromText

theorem spec_fromDetail {page : Option String} {first url : String}
    (h : (Position.detail page first).address t = .ok (some url)) :
    Spec env.network t.policy (fromDetail env t url) f (Follows t (.detail page first) f) := by
  unfold fromDetail
  refine spec_boundary_then (by simp [Position.stage]) ?_
  refine spec_stage_then (p := .detail page first) (spec_detailStage h) ?_
    (fun _ _ => follows_failed) ?_
  · intro x e he
    exact map_eq_error.mpr (map_eq_error.mp he)
  · intro cs x read hx hread
    obtain ⟨d, hd, rfl⟩ := map_eq_ok.mp hread
    have hyield : (Position.detail page first).yield t f x
        = .ok ({ f with detail := some d }, .to (.toc d x.1 x.2)) := map_eq_ok.mpr ⟨d, hd, rfl⟩
    exact spec_then (spec_found _) (spec_onward hx hyield spec_fromChapters)

theorem spec_afterSearch {page first : String} :
    Spec env.network t.policy (ofResult (Url.full page first) >>= fromDetail env t) f
      (Follows t (.detail (some page) first) f) := by
  refine spec_bind (spec_ofResult ?_)
  cases hurl : Url.full page first with
  | error e => exact follows_lost (map_eq_error.mpr hurl)
  | ok url => exact spec_fromDetail (map_eq_ok.mpr ⟨url, hurl, rfl⟩)

/-- All stages together follow a course from the start, whatever was found before. -/
theorem spec_stages (env : Surroundings σ) (t : Task) (keyword : String) (f : Findings) :
    Spec env.network t.policy (stages env t keyword) f (Follows t (.start keyword) f) := by
  unfold stages
  refine spec_then (spec_log _) (spec_then (spec_log _) ?_)
  unfold detailAddress Position.start
  by_cases habsolute : Url.isAbsolute keyword.toList = true
  · rw [if_pos habsolute, if_pos habsolute]
    simp only [bind_assoc, pure_bind]
    exact spec_then (spec_log _) (spec_fromDetail rfl)
  · rw [if_neg habsolute, if_neg habsolute]
    simp only [bind_assoc]
    refine spec_stage_then (p := .search keyword) spec_searchStage ?_ (fun _ _ => follows_failed) ?_
    · intro x e he
      exact map_eq_error.mpr (map_eq_error.mp he)
    · intro cs x found hx hfound
      obtain ⟨h, hh, rfl⟩ := map_eq_ok.mp hfound
      have hyield : (Position.search keyword).yield t f x = .ok ({ f with search := h.kept },
          Position.leadTo (·.url) h.kept fun first => .detail (some x.1.url) first) :=
        map_eq_ok.mpr ⟨h, hh, rfl⟩
      unfold Position.leadTo at hyield
      refine spec_then (spec_found _) ?_
      by_cases hfirst : (h.kept.map (·.url)).headD "" = ""
      · rw [if_pos hfirst] at hyield
        simp only [hfirst, if_true, bind_assoc]
        exact spec_stuck (p := .search keyword) hx hyield
      · rw [if_neg hfirst] at hyield
        simp only [hfirst, if_false]
        exact spec_onward hx hyield spec_afterSearch

end Following

end Running

namespace Debugger

def calls (env : Surroundings σ) (t : Task) (keyword : String) (d : Debugger σ) : List FetchCall :=
  (d.run env t keyword).debugger.session.fetches.drop d.session.fetches.length

def begun (d : Debugger σ) : Run σ :=
  ⟨{ d with running := true, stopRequested := false }, .none, [], []⟩

/-- A run is what its course comes to: the ending of its upshot, with the findings and lines
    that it leaves. -/
theorem run_eq {env : Surroundings σ} {t : Task} {keyword : String} {d : Debugger σ}
    {u : Upshot} {r : Run σ} (h : d.running = false)
    (hrun : Running.stages env t (Text.trim keyword) d.begun = (u.halt, r)) :
    d.run env t keyword = ⟨u.ending.map fun ending => ⟨r.findings, ending, r.lines⟩, r.refusals,
      { r.debugger with running := false }⟩ := by
  unfold begun at hrun
  unfold run
  rw [h, if_neg Bool.false_ne_true]
  dsimp only
  rw [hrun]
  cases u with
  | stopped => rfl
  | failed stage e =>
    simp only [Upshot.halt, Upshot.ending]
    cases e.endsStage <;> rfl
  | stuck stage => rfl
  | home => rfl

/-- A run follows a course from where its keyword makes it start. -/
theorem run_course (env : Surroundings σ) (t : Task) (keyword : String) {d : Debugger σ}
    (h : d.running = false) : ∃ f u lines,
      (d.run env t keyword).debugger.session.fetches = d.session.fetches ++ d.calls env t keyword
      ∧ (∀ c ∈ d.calls env t keyword, c.MadeOn env.network t.policy)
      ∧ Course t (.start (Text.trim keyword)) .none (d.calls env t keyword) f u
      ∧ (d.run env t keyword).result = u.ending.map fun ending => ⟨f, ending, lines⟩ := by
  obtain ⟨cs, hcalls, hmade, u, hcourse, hu⟩ :=
    Running.spec_stages env t (Text.trim keyword) .none d.begun rfl
  rcases hrun : Running.stages env t (Text.trim keyword) d.begun with ⟨outcome, r⟩
  rw [hrun] at hcalls hcourse hu
  obtain rfl : outcome = u.halt := hu
  have hfetches : r.debugger.session.fetches = d.session.fetches ++ cs := hcalls
  unfold calls
  rw [run_eq h hrun]
  dsimp only
  have hdrop : Session.fetches ({ r.debugger with running := false } : Debugger σ).session
      = d.session.fetches ++ cs := hfetches
  rw [hdrop, List.drop_left]
  exact ⟨r.findings, u, r.lines, rfl, hmade, hcourse, rfl⟩

end Debugger

/-! ### What the fetches determine -/

/-- A page is loaded in one way only, whatever fetches come after. -/
theorem Loads.unique {t : Task} {url : String} {cs cs' ds ds' : List FetchCall}
    {x x' : Except Fault (Reply × Page)} (h : Loads t url cs x) (h' : Loads t url cs' x')
    (heq : cs ++ ds = cs' ++ ds') : x = x' ∧ ds = ds' := by
  cases h with
  | unasked hh =>
    cases h' with
    | unasked hh' =>
      rw [hh] at hh'
      cases hh'
      exact ⟨rfl, heq⟩
    | asked c' hurl' hh' => rw [hh] at hh'; cases hh'
  | asked c hurl hh =>
    cases h' with
    | unasked hh' => rw [hh] at hh'; cases hh'
    | asked c' hurl' hh' =>
      cases heq
      exact ⟨rfl, rfl⟩

/-- The fetches of a run tell what it arrived at. -/
theorem Arrives.unique {t : Task} {p : Position} {cs cs' ds ds' : List FetchCall}
    {x x' : Except Fault (Reply × Page)} (h : Arrives t p cs x) (h' : Arrives t p cs' x')
    (heq : cs ++ ds = cs' ++ ds') : x = x' ∧ ds = ds' := by
  cases h with
  | lost ha =>
    cases h' with
    | lost ha' =>
      rw [ha] at ha'
      cases ha'
      exact ⟨rfl, heq⟩
    | loads ha' hx' => rw [ha] at ha'; cases ha'
    | there htoc => simp [Position.address, htoc] at ha
  | loads ha hx =>
    cases h' with
    | lost ha' => rw [ha] at ha'; cases ha'
    | loads ha' hx' =>
      rw [ha] at ha'
      cases ha'
      exact hx.unique hx' heq
    | there htoc => simp [Position.address, htoc] at ha
  | there htoc =>
    cases h' with
    | lost ha' => simp [Position.address, htoc] at ha'
    | loads ha' hx' => simp [Position.address, htoc] at ha'
    | there htoc' => exact ⟨rfl, heq⟩

def Course.After (t : Task) (p : Position) (f : Findings) (x : Except Fault (Reply × Page))
    (cs : List FetchCall) (f' : Findings) (u : Upshot) : Prop :=
  match x.bind fun y => p.yield t f y with
  | .error e => cs = [] ∧ f' = f ∧ u = .failed p.stage e
  | .ok (g, .nowhere) => cs = [] ∧ f' = g ∧ u = .stuck p.stage
  | .ok (g, .home) => cs = [] ∧ f' = g ∧ u = .home
  | .ok (g, .to q) => Course t q g cs f' u

/-- A course that is not stopped starts with the fetches for its position, and the rest
    follows from what they gave. -/
theorem Course.first {t : Task} {p : Position} {f f' : Findings} {cs : List FetchCall} {u : Upshot}
    (h : Course t p f cs f' u) (hu : u ≠ .stopped) :
    ∃ cs₁ cs₂ x, cs = cs₁ ++ cs₂ ∧ Arrives t p cs₁ x ∧ Course.After t p f x cs₂ f' u := by
  cases h with
  | stopped hp => exact absurd rfl hu
  | failed hx he =>
    refine ⟨cs, [], _, (List.append_nil _).symm, hx, ?_⟩
    simp only [Course.After, he, and_self]
  | stuck hx hlead =>
    refine ⟨cs, [], _, (List.append_nil _).symm, hx, ?_⟩
    simp only [Course.After, Except.bind, hlead, and_self]
  | home hx hlead =>
    refine ⟨cs, [], _, (List.append_nil _).symm, hx, ?_⟩
    simp only [Course.After, Except.bind, hlead, and_self]
  | onward hx hlead hq =>
    refine ⟨_, _, _, rfl, hx, ?_⟩
    simpa only [Course.After, Except.bind, hlead] using hq

/-- Two courses with the same fetches, neither of them stopped, end alike. -/
theorem Course.unique {t : Task} {p : Position} {f f₁ f₂ : Findings} {cs : List FetchCall}
    {u₁ u₂ : Upshot} (h₁ : Course t p f cs f₁ u₁) (h₂ : Course t p f cs f₂ u₂)
    (hu₁ : u₁ ≠ .stopped) (hu₂ : u₂ ≠ .stopped) : f₁ = f₂ ∧ u₁ = u₂ := by
  -- the second course is taken apart at its first page, which is that of the first course
  induction h₁ with
  | stopped hp => exact absurd rfl hu₁
  | failed hx he =>
    obtain ⟨cs₁, cs₂, x', rfl, hx', hafter⟩ := h₂.first hu₂
    obtain ⟨rfl, rfl⟩ := hx.unique hx' (List.append_nil _)
    simp only [Course.After, he] at hafter
    exact ⟨hafter.2.1.symm, hafter.2.2.symm⟩
  | stuck hx hlead =>
    obtain ⟨cs₁, cs₂, x', rfl, hx', hafter⟩ := h₂.first hu₂
    obtain ⟨rfl, rfl⟩ := hx.unique hx' (List.append_nil _)
    simp only [Course.After, Except.bind, hlead] at hafter
    exact ⟨hafter.2.1.symm, hafter.2.2.symm⟩
  | home hx hlead =>
    obtain ⟨cs₁, cs₂, x', rfl, hx', hafter⟩ := h₂.first hu₂
    obtain ⟨rfl, rfl⟩ := hx.unique hx' (List.append_nil _)
    simp only [Course.After, Except.bind, hlead] at hafter
    exact ⟨hafter.2.1.symm, hafter.2.2.symm⟩
  | onward hx hlead hq ih =>
    obtain ⟨cs₁, cs₂, x', heq, hx', hafter⟩ := h₂.first hu₂
    obtain ⟨rfl, rfl⟩ := hx.unique hx' heq
    simp only [Course.After, Except.bind, hlead] at hafter
    exact ih hafter hu₁

/-! ### A small site -/

def Network.mirror (body : String) : Network Unit :=
  fun r s => (.reply ⟨r.url, 200, body.toUTF8.toList, []⟩, s)

def Surroundings.quiet (net : Network σ) : Surroundings σ :=
  ⟨net, fun _ s => (⟨false, false⟩, s), fun _ => ""⟩

/-- A page with one link, which is a book, a chapter and a text. -/
def Surroundings.oneLinkBody : String := "[\x7b\"u\":\"/c\"\x7d]"

def Surroundings.oneLink : Surroundings Unit := .quiet (.mirror oneLinkBody)

def Task.oneLink : Task where
  source :=
    { url := "http://a", searchUrl := some "/s", searchRules := some { bookUrl := some "u" }
      detailRules := some {}, tocRules := some { chapterUrl := some "u" }
      contentRules := some {} }
  policy := ⟨0, .whole 0, .whole 1, 5, "gleaner"⟩
  settings := Settings.usual

theorem oneLink_completes : ∃ report,
    ((Debugger.start ()).run .oneLink .oneLink "k").result = .ok report ∧ report.completed = true :=
  exists_ok_of_any (by decide +kernel)

end Gleaner
