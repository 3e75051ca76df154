/-
  Gleaner/Proofs/Debug/Report.lean
  ================================
  **What a report says.**  A report shows that the run was completed, that it was stopped
  or that it was aborted in a stage, and what it holds besides goes with that.  The
  invariant is what a run has found before each stage (`Findings.Before`): a stage keeps
  it (`yield_before`), so a course does (`Course.leaves`).
-/
import Gleaner.Proofs.Debug.Course
import Mathlib.Logic.ExistsUnique

namespace Gleaner

variable {σ α : Type}

/-! ### What has been found -/

namespace Findings

def FirstBook (f : Findings) : Prop := ∃ b more, f.search = b :: more ∧ b.url ≠ ""

def FirstChapter (f : Findings) : Prop := ∃ c more, f.chapters = c :: more ∧ c.url ≠ ""

/-- There is no first chapter, or it has no address. -/
def NoFirstChapter (f : Findings) : Prop :=
  f.chapters = [] ∨ ∃ c more, f.chapters = c :: more ∧ c.url = ""

/-- A first book was found, or none was searched for because the keyword is an address. -/
def Searched (keyword : String) (f : Findings) : Prop :=
  (f.search = [] ∧ Url.isAbsolute keyword.toList = true) ∨ f.FirstBook

/-- What a run has found when it comes to a stage. -/
inductive Before (keyword : String) : Findings → Stage → Prop
  | search : Before keyword .none .search
  | detail {f : Findings} (hsearch : f.Searched keyword) (hdetail : f.detail = Option.none)
      (hchapters : f.chapters = []) (hcontent : f.content = Option.none) : Before keyword f .detail
  | toc {f : Findings} (hsearch : f.Searched keyword) (hdetail : f.detail.isSome)
      (hchapters : f.chapters = []) (hcontent : f.content = Option.none) : Before keyword f .toc
  | content {f : Findings} (hsearch : f.Searched keyword) (hdetail : f.detail.isSome)
      (hchapters : f.FirstChapter) (hcontent : f.content = Option.none) : Before keyword f .content

def AbortedIn (f : Findings) : Stage → Prop
  | .search => f.detail = Option.none ∧ f.chapters = []
  | .detail => f.detail = Option.none ∧ f.chapters = []
  | .toc => f.detail.isSome ∧ f.NoFirstChapter
  | .content => f.detail.isSome ∧ f.FirstChapter

def Complete (keyword : String) (f : Findings) : Prop :=
  f.Searched keyword ∧ f.detail.isSome ∧ f.FirstChapter ∧ f.content.isSome

theorem Before.content_none {keyword : String} {f : Findings} {stage : Stage}
    (h : Before keyword f stage) : f.content = Option.none := by
  cases h with
  | search => rfl
  | detail _ _ _ hcontent => exact hcontent
  | toc _ _ _ hcontent => exact hcontent
  | content _ _ _ hcontent => exact hcontent

theorem Before.abortedIn {keyword : String} {f : Findings} {stage : Stage}
    (h : Before keyword f stage) : f.AbortedIn stage := by
  cases h with
  | search => exact ⟨rfl, rfl⟩
  | detail _ hdetail hchapters _ => exact ⟨hdetail, hchapters⟩
  | toc _ hdetail hchapters _ => exact ⟨hdetail, .inl hchapters⟩
  | content _ hdetail hchapters _ => exact ⟨hdetail, hchapters⟩

end Findings

/-! ### Stages keep the invariant -/

def Lead.Leaves (keyword : String) (stage : Stage) (f : Findings) : Lead → Prop
  | .to q => f.Before keyword q.stage
  | .nowhere => f.content = none ∧ f.AbortedIn stage
  | .home => f.Complete keyword

/-- One stage: what was found before it and what is found in it. -/
theorem yield_before {t : Task} {keyword : String} {p : Position} {f f' : Findings}
    {x : Reply × Page} {lead : Lead} (hf : f.Before keyword p.stage)
    (h : p.yield t f x = .ok (f', lead)) :
    lead.Leaves keyword p.stage f' := by
  cases p with
  | search kw =>
    simp only [Position.yield, map_eq_ok] at h
    obtain ⟨books, -, hb⟩ := h
    cases hb
    cases hf
    rcases Position.leadTo_cases (·.url) books.kept fun first => .detail (some x.1.url) first with
      ⟨b, more, hkept, hurl, hlead⟩ | ⟨-, hlead⟩
    · rw [hlead]
      exact .detail (.inr ⟨b, more, hkept, hurl⟩) rfl rfl rfl
    · rw [hlead]
      exact ⟨rfl, rfl, rfl⟩
  | detail page url =>
    simp only [Position.yield, map_eq_ok] at h
    obtain ⟨d, -, hd⟩ := h
    cases hd
    cases hf with
    | detail hsearch _ hchapters hcontent => exact .toc hsearch rfl hchapters hcontent
  | toc book reply page =>
    simp only [Position.yield, map_eq_ok] at h
    obtain ⟨chapters, -, hc⟩ := h
    cases hc
    cases hf with
    | toc hsearch hdetail _ hcontent =>
      rcases Position.leadTo_cases (·.url) chapters.kept fun first => .text x.1.url first with
        ⟨c, more, hkept, hurl, hlead⟩ | ⟨hnone, hlead⟩
      · rw [hlead]
        exact .content hsearch hdetail ⟨c, more, hkept, hurl⟩ hcontent
      · rw [hlead]
        exact ⟨hcontent, hdetail, hnone⟩
  | text page first =>
    simp only [Position.yield, map_eq_ok] at h
    obtain ⟨text, -, ht⟩ := h
    cases ht
    cases hf with
    | content hsearch hdetail hchapters _ => exact ⟨hsearch, hdetail, hchapters, rfl⟩

theorem start_before (keyword : String) :
    Findings.none.Before keyword (Position.start keyword).stage := by
  unfold Position.start
  by_cases h : Url.isAbsolute keyword.toList = true
  · rw [if_pos h]
    exact .detail (.inl ⟨rfl, h⟩) rfl rfl rfl
  · rw [if_neg h]
    exact .search

/-! ### Whole runs -/

/-- The stage in which a run with this upshot came to grief. -/
def Upshot.stage? : Upshot → Option Stage
  | .failed stage _ => some stage
  | .stuck stage => some stage
  | _ => none

def Upshot.Leaves (keyword : String) (f : Findings) : Upshot → Prop
  | .stopped => f.content = none
  | .failed stage _ => f.content = none ∧ f.AbortedIn stage
  | .stuck stage => f.content = none ∧ f.AbortedIn stage
  | .home => f.Complete keyword

/-- What a course leaves depends on the stage from which it started, by induction on the
    course. -/
theorem Course.leaves {t : Task} {keyword : String} {p : Position} {f f' : Findings}
    {cs : List FetchCall} {u : Upshot} (h : Course t p f cs f' u) (hf : f.Before keyword p.stage) :
    u.Leaves keyword f' := by
  induction h with
  | stopped hp => exact hf.content_none
  | failed hx he => exact ⟨hf.content_none, hf.abortedIn⟩
  | stuck hx hlead => exact yield_before hf hlead
  | home hx hlead => exact yield_before hf hlead
  | onward hx hlead hq ih => exact ih (yield_before hf hlead)

/-- In the course of the run the stage fails, or finds nothing to go on with. -/
def Debugger.FailsIn (env : Surroundings σ) (t : Task) (keyword : String) (d : Debugger σ)
    (stage : Stage) : Prop :=
  ∃ f u, Course t (.start (Text.trim keyword)) .none (d.calls env t keyword) f u
    ∧ u.stage? = some stage

namespace Report

/-- The ways in which a run comes out that was not refused. -/
inductive Verdict where
  | completed
  | stopped
  | aborted (stage : Stage)
deriving DecidableEq, Repr

structure IsCompleted (keyword : String) (r : Report) : Prop where
  abortedAt : r.abortedAt? = none
  stopped : r.stopped = false
  search : r.findings.Searched keyword
  detail : r.findings.detail.isSome
  chapters : r.findings.FirstChapter
  content : r.findings.content.isSome

structure IsStopped (r : Report) : Prop where
  abortedAt : r.abortedAt? = none
  stopped : r.stopped = true
  content : r.findings.content = none

structure IsAborted (stage : Stage) (r : Report) : Prop where
  abortedAt : r.abortedAt? = some stage.name
  stopped : r.stopped = false
  content : r.findings.content = none
  found : r.findings.AbortedIn stage

def Shows (keyword : String) (r : Report) : Verdict → Prop
  | .completed => r.IsCompleted keyword
  | .stopped => r.IsStopped
  | .aborted stage => r.IsAborted stage

/-- The verdict that a report gives, by its two marks. -/
def verdict? (r : Report) : Option Verdict :=
  match r.stopped, r.abortedAt? with
  | true, _ => some .stopped
  | false, none => some .completed
  | false, some name =>
      if name = Stage.search.name then some (.aborted .search)
      else if name = Stage.detail.name then some (.aborted .detail)
      else if name = Stage.toc.name then some (.aborted .toc)
      else if name = Stage.content.name then some (.aborted .content)
      else none

theorem Shows.verdict {keyword : String} {r : Report} {v : Verdict} (h : r.Shows keyword v) :
    r.verdict? = some v := by
  unfold verdict?
  cases v with
  | completed => rw [h.stopped, h.abortedAt]
  | stopped => rw [h.stopped]
  | aborted stage =>
    rw [h.stopped, h.abortedAt]
    cases stage <;> rfl

theorem Shows.completed_iff {keyword : String} {r : Report} {v : Verdict} (h : r.Shows keyword v) :
    r.completed = true ↔ v = .completed := by
  unfold completed
  cases v with
  | completed => simp [h.stopped, h.abortedAt, h.content]
  | stopped => simp [h.stopped]
  | aborted stage => simp [h.stopped, h.abortedAt]

end Report

/-- What a course leaves is shown by its report, with the verdict that belongs to its
    ending. -/
theorem Upshot.Leaves.shows {keyword : String} {f : Findings} {u : Upshot} {ending : Ending}
    (lines : List String) (h : u.Leaves keyword f) (hu : u.ending = .ok ending) :
    ∃ v, (Report.mk f ending lines).Shows keyword v
      ∧ ∀ stage, v = .aborted stage → u.stage? = some stage := by
  cases u with
  | stopped =>
    cases hu
    refine ⟨.stopped, ⟨rfl, rfl, h⟩, ?_⟩
    intro stage hv
    cases hv
  | failed stage e =>
    simp only [Upshot.ending] at hu
    by_cases he : e.endsStage = true
    · rw [if_pos he] at hu
      cases hu
      refine ⟨.aborted stage, ⟨rfl, rfl, h.1, h.2⟩, ?_⟩
      rintro _ ⟨⟩
      rfl
    · rw [if_neg he] at hu
      cases hu
  | stuck stage =>
    cases hu
    refine ⟨.aborted stage, ⟨rfl, rfl, h.1, h.2⟩, ?_⟩
    rintro _ ⟨⟩
    rfl
  | home =>
    cases hu
    obtain ⟨hsearch, hdetail, hchapters, hcontent⟩ := h
    refine ⟨.completed, ⟨rfl, rfl, hsearch, hdetail, hchapters, hcontent⟩, ?_⟩
    intro stage hv
    cases hv

/-- Every run that gives a report and was not refused comes out in exactly one way, which
    its report shows; the stage of an abort is the one that failed, and only a completed
    run counts as such. -/
theorem run_shows_one_verdict (env : Surroundings σ) (t : Task) (keyword : String) (d : Debugger σ)
    (report : Report) (hidle : d.running = false)
    (h : (d.run env t keyword).result = .ok report) :
    (∃! v, report.Shows (Text.trim keyword) v)
      ∧ (report.completed = true ↔ report.IsCompleted (Text.trim keyword))
      ∧ ∀ stage, report.IsAborted stage → d.FailsIn env t keyword stage := by
  obtain ⟨f, u, lines, -, -, hcourse, hresult⟩ := Debugger.run_course env t keyword hidle
  rw [hresult] at h
  obtain ⟨ending, hending, rfl⟩ := map_eq_ok.mp h
  have hstart := start_before (Text.trim keyword)
  have hleaves : u.Leaves (Text.trim keyword) f := hcourse.leaves hstart
  obtain ⟨v, hshows, hstage⟩ := hleaves.shows lines hending
  have hunique : ∀ w, (Report.mk f ending lines).Shows (Text.trim keyword) w → w = v := by
    intro w hw
    exact Option.some.inj (hw.verdict.symm.trans hshows.verdict)
  refine ⟨⟨v, hshows, hunique⟩, ?_, ?_⟩
  · rw [hshows.completed_iff]
    constructor
    · rintro rfl
      exact hshows
    · intro hcompleted
      exact (hunique .completed hcompleted).symm
  · intro stage haborted
    exact ⟨f, u, hcourse, hstage stage (hunique (.aborted stage) haborted).symm⟩

theorem oneLink_shows_one_verdict : ∃ report,
    ((Debugger.start ()).run .oneLink .oneLink "k").result = .ok report
      ∧ (∃! v, report.Shows (Text.trim "k") v) ∧ report.IsCompleted (Text.trim "k") := by
  obtain ⟨report, h, hcompleted⟩ := oneLink_completes
  obtain ⟨hone, hiff, -⟩ := run_shows_one_verdict _ _ _ _ report rfl h
  exact ⟨report, h, hone, hiff.mp hcompleted⟩

end Gleaner
