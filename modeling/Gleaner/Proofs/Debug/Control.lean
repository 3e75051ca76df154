/-
  Gleaner/Proofs/Debug/Control.lean
  =================================
  **Stopping a run, and one run at a time.**  Once `stop` has been called in a run, no
  further stage of it starts; a call that comes on the blank line above a title finds that
  stage started already.  At every line of a run its debugger is marked as running.  A run
  that is started then logs one line and leaves the marks as they are (`Refuses`), and
  after a run, however it ends, the debugger is idle.  An idle debugger takes no calls of
  `stop`, and a run does not heed what was asked for before it.

  All this holds in every history of a debugger (`history_is_controlled`).
-/
import Gleaner.Proofs.Debug.Course
import Gleaner.Proofs.Debug.Part

namespace Gleaner

variable {σ : Type}

/-! ### Calls -/

inductive Call where
  | stop
  | run (t : Task) (keyword : String)

def Call.isRun : Call → Bool
  | .stop => false
  | .run _ _ => true

def RunResult.ofStages (x : Except Halt Unit × Run σ) : RunResult σ where
  result := match x.1 with
    | .ok () => .ok ⟨x.2.findings, .completed, x.2.lines⟩
    | .error (.ended ending) => .ok ⟨x.2.findings, ending, x.2.lines⟩
    | .error (.fault f) => .error f
  refusals := x.2.refusals
  debugger := { x.2.debugger with running := false }

theorem RunResult.lines_ofStages {x : Except Halt Unit × Run σ} {report : Report}
    (h : (RunResult.ofStages x).result = .ok report) : report.lines = x.2.lines := by
  rcases x with ⟨(ending | f) | u, r⟩
  · cases h
    rfl
  · cases h
  · cases h
    rfl

namespace Debugger

section Calls

variable {env : Surroundings σ} {d : Debugger σ}

def after (env : Surroundings σ) : Debugger σ → List Call → Debugger σ
  | d, [] => d
  | d, .stop :: calls => d.stop.after env calls
  | d, .run t keyword :: calls => (d.run env t keyword).debugger.after env calls

/-- What the runs among some calls leave behind. -/
def outcomes (env : Surroundings σ) : Debugger σ → List Call → List (RunResult σ)
  | _, [] => []
  | d, .stop :: calls => d.stop.outcomes env calls
  | d, .run t keyword :: calls =>
      d.run env t keyword :: (d.run env t keyword).debugger.outcomes env calls

/-- What comes of a run that is started while another one goes on. -/
structure Refuses (env : Surroundings σ) (d : Debugger σ) (outcome : RunResult σ) : Prop where
  report : ∃ report : Report, outcome.result = .ok report ∧ report.abortedAt? = some "busy"
    ∧ report.findings = .none ∧ report.lines = [d.lineOf env busyMessage]
  refusals : outcome.refusals = []
  /-- One line is logged, and nothing else happens. -/
  events : outcome.debugger.session.events
    = d.session.events ++ [.traced (d.lineOf env busyMessage)]
  running : outcome.debugger.running = d.running
  /-- Who listens may ask on that line that the run stop which goes on. -/
  stopRequested : outcome.debugger.stopRequested
    = (d.stopRequested || (d.wishOn env busyMessage).stop)

theorem run_of_running (t : Task) (keyword : String) (h : d.running = true) :
    d.run env t keyword = ⟨.ok (d.refuse env).1, [], (d.refuse env).2⟩ := by
  unfold run
  rw [h]
  rfl

theorem refuses_run (t : Task) (keyword : String) (h : d.running = true) :
    Refuses env d (d.run env t keyword) := by
  rw [run_of_running t keyword h, refuse_eq]
  exact ⟨⟨_, rfl, rfl, rfl, rfl⟩, rfl, events_told env _ d, running_told env _ d,
    stopRequested_told env _ h⟩

/-- As long as a run goes on no call ends it. -/
theorem running_after (h : d.running = true) (calls : List Call) :
    (d.after env calls).running = true := by
  induction calls generalizing d with
  | nil => exact h
  | cons call calls ih =>
    cases call with
    | stop => exact ih (by rw [running_stop, h])
    | run t keyword => exact ih (by rw [(refuses_run t keyword h).running, h])

theorem stop_of_idle (h : d.running = false) : d.stop = d := by
  unfold stop
  rw [h]
  rfl

/-- An idle debugger starts a run afresh. -/
theorem run_of_idle (env : Surroundings σ) (t : Task) (keyword : String) (h : d.running = false) :
    d.run env t keyword = .ofStages (Running.stages env t (Text.trim keyword) d.begun) := by
  unfold run begun
  rw [h, if_neg Bool.false_ne_true]
  dsimp only
  generalize Running.stages env t (Text.trim keyword) _ = x
  rcases x with ⟨outcome, r⟩
  rfl

/-- A run that is not refused leaves its debugger idle. -/
theorem idle_run (t : Task) (keyword : String) (h : d.running = false) :
    (d.run env t keyword).debugger.running = false := by
  rw [run_of_idle env t keyword h]
  rfl

theorem idle_after (h : d.running = false) (calls : List Call) :
    (d.after env calls).running = false := by
  induction calls generalizing d with
  | nil => exact h
  | cons call calls ih =>
    cases call with
    | stop => exact ih (by rw [running_stop, h])
    | run t keyword => exact ih (idle_run t keyword h)

/-- A run does not heed whether it was asked to stop before it began. -/
theorem run_mark (t : Task) (keyword : String) (mark : Bool) (h : d.running = false) :
    ({ d with stopRequested := mark } : Debugger σ).run env t keyword = d.run env t keyword := by
  have hbegun : ({ d with stopRequested := mark } : Debugger σ).begun = d.begun := rfl
  have hidle : ({ d with stopRequested := mark } : Debugger σ).running = false := h
  rw [run_of_idle env t keyword h, run_of_idle env t keyword hidle, hbegun]

/-- A stop that was asked for between runs has no effect on the runs after it. -/
theorem outcomes_mark (mark : Bool) (h : d.running = false) (calls : List Call) :
    ({ d with stopRequested := mark } : Debugger σ).outcomes env calls
      = d.outcomes env (calls.filter Call.isRun) := by
  induction calls generalizing d mark with
  | nil => rfl
  | cons call calls ih =>
    cases call with
    | stop =>
      have hstop : ({ d with stopRequested := mark } : Debugger σ).stop
          = { d with stopRequested := mark } :=
        stop_of_idle h
      rw [outcomes, hstop]
      exact ih mark h
    | run t keyword =>
      rw [outcomes, run_mark t keyword mark h]
      exact congrArg _ (ih _ (idle_run t keyword h))

end Calls

/-! ### A run in its parts -/

section Runs

variable {env : Surroundings σ} {t : Task} {keyword : String} {d : Debugger σ}

/-- The moments of a run: those before its first stage, and the stages. -/
structure Chronicle (env : Surroundings σ) (t : Task) (keyword : String) (d : Debugger σ)
    (opening : List (Moment σ)) (parts : List (Part σ)) : Prop where
  /-- They lead from the debugger that starts the run to the one that ends it. -/
  passes : Passes env t.policy d.begun.debugger (opening ++ parts.flatMap Part.moments)
    { (d.run env t keyword).debugger with running := true }
  lines : ∀ report, (d.run env t keyword).result = .ok report →
    report.lines = (opening ++ parts.flatMap Part.moments).filterMap (·.line? env)
  refusals : (d.run env t keyword).refusals
    = (opening ++ parts.flatMap Part.moments).filterMap (·.refusal? env)
  fetches : (d.run env t keyword).debugger.session.fetches
    = d.session.fetches ++ (opening ++ parts.flatMap Part.moments).filterMap (·.call? env t.policy)
  mark : (d.run env t keyword).debugger.stopRequested
    = (opening ++ parts.flatMap Part.moments).any (·.stops env)
  stages : parts.map Part.stage <+: Stage.ahead (Text.trim keyword)
  /-- Before the stages there is neither a title nor a fetch, and in a stage there is no
      other title than its own and one fetch at most. -/
  calm : Calm 0 opening ∧ ∀ q ∈ parts, Calm 1 q.rest
  /-- A stage other than the search starts only if `stop` was not called before. -/
  unstopped : ∀ before q after, parts = before ++ q :: after → q.stage ≠ .search →
    ∀ m ∈ opening ++ before.flatMap Part.moments, m.stops env = false

/-- In a run that has come to a debugger not asked to stop, `stop` has not been called. -/
theorem unstopped_of_passes {p : FetchPolicy} {e : Debugger σ} {ms : List (Moment σ)}
    (h : Passes env p d.begun.debugger ms e) (he : e.stopRequested = false) :
    ∀ m ∈ ms, m.stops env = false := by
  have hmark := h.stopRequested rfl
  rw [he] at hmark
  have hnone : ms.any (·.stops env) = false := hmark.symm
  simpa using hnone

/-- A run unfolds through its stages, from the debugger that starts it to the one that ends it. -/
theorem run_unfolds (env : Surroundings σ) (t : Task) (keyword : String) (h : d.running = false) :
    ∃ ms x, d.run env t keyword = .ofStages x ∧ d.begun.Becomes env t.policy ms x.2
      ∧ { (RunResult.ofStages x).debugger with running := true } = x.2.debugger
      ∧ Unfolds env t.policy (Stage.ahead (Text.trim keyword)) ms x.1 := by
  obtain ⟨ms, hr, hunfolds⟩ := Running.tells_stages env t (Text.trim keyword) d.begun
  have hrun := run_of_idle env t keyword h
  generalize Running.stages env t (Text.trim keyword) d.begun = x at hr hrun hunfolds
  have hrunning : x.2.debugger.running = true := hr.passes.running.1
  refine ⟨ms, x, hrun, hr, ?_, hunfolds⟩
  rw [← hrunning]
  rfl

/-- The moments of every run can be divided into an opening and its stages. -/
theorem exists_chronicle (env : Surroundings σ) (t : Task) (keyword : String)
    (h : d.running = false) :
    ∃ opening parts, d.Chronicle env t keyword opening parts := by
  obtain ⟨ms, x, hrun, hr, hend, hunfolds⟩ := run_unfolds env t keyword h
  obtain ⟨opening, parts, rfl, hopening, hstages, hparts⟩ := hunfolds.goesThrough
  refine ⟨opening, parts, ?_⟩
  constructor
  case passes => rw [hrun, hend]; exact hr.passes
  case lines =>
    intro report hreport
    rw [hrun] at hreport
    rw [RunResult.lines_ofStages hreport, hr.lines]
    rfl
  case refusals => rw [hrun]; exact hr.refusals
  case fetches => rw [hrun]; exact hr.passes.fetches
  case mark => rw [hrun]; exact hr.passes.stopRequested rfl
  case stages => exact hstages
  case calm => exact ⟨hopening, fun q hq => (hparts q hq).calm⟩
  case unstopped =>
    rintro before q after rfl hq
    have hpassed : q.start.stopRequested = false := (hparts q (by simp)).passed hq
    rw [List.flatMap_append, List.flatMap_cons, ← List.append_assoc] at hr
    obtain ⟨e, hfront, hback⟩ := hr.passes.split
    have he : e = q.start := by
      cases hback
      rfl
    exact unstopped_of_passes hfront (he ▸ hpassed)

/-- When a line is heard the debugger is running.  Whatever who listens calls then, every
    run is refused, and what a run that is started on the line does is one of those. -/
structure Guarded (env : Surroundings σ) (p : FetchPolicy) (m : Moment σ) (message : String) :
    Prop where
  running : m.debugger.running = true
  refuses : ∀ (calls : List Call) (t : Task) (keyword : String),
    Refuses env ((m.debugger.told env message).after env calls)
      (((m.debugger.told env message).after env calls).run env t keyword)
  started : ∀ report, m.refusal? env = some report → ∀ (t : Task) (keyword : String),
    ((m.debugger.told env message).run env t keyword).result = .ok report
      ∧ ((m.debugger.told env message).run env t keyword).debugger = m.next env p

/-- While a run goes on, every other run is refused. -/
theorem guarded_of_running {p : FetchPolicy} {m : Moment σ} {message : String}
    (h : m.debugger.running = true) (hm : m.action = .say message) : Guarded env p m message := by
  have htold : (m.debugger.told env message).running = true := by rw [running_told, h]
  refine ⟨h, fun calls t keyword => refuses_run t keyword (running_after htold calls), ?_⟩
  intro report hreport t keyword
  rw [run_of_running t keyword htold, refuse_eq]
  simp only [Moment.refusal?, hm] at hreport
  simp only [Moment.next, hm]
  split at hreport
  · next hanother =>
    cases hreport
    rw [if_pos hanother]
    exact ⟨rfl, rfl⟩
  · cases hreport

/-- Whatever was asked of a debugger before, it is idle then, takes no call of `stop`, and
    goes through a run stage by stage.  While it does so every other run is refused, and
    once it was asked to stop no further stage starts.  The run leaves the debugger idle,
    and what comes later is the same whether it was asked to stop before. -/
theorem history_is_controlled (env : Surroundings σ) (state : σ) (calls : List Call) (t : Task)
    (keyword : String) :
    let d := (start state).after env calls
    let left := (d.run env t keyword).debugger
    d.running = false ∧ d.stop = d ∧ left.running = false
      ∧ (∃ opening parts, d.Chronicle env t keyword opening parts
        ∧ ∀ m ∈ opening ++ parts.flatMap Part.moments, ∀ message, m.action = .say message →
          Guarded env t.policy m message)
      ∧ ∀ (mark : Bool) (later : List Call),
        ({ left with stopRequested := mark } : Debugger σ).outcomes env later
          = left.outcomes env (later.filter Call.isRun) := by
  intro d left
  have hidle : d.running = false := idle_after rfl calls
  have hleft : left.running = false := idle_run t keyword hidle
  obtain ⟨opening, parts, hchronicle⟩ := exists_chronicle env t keyword hidle
  refine ⟨hidle, stop_of_idle hidle, hleft, ⟨opening, parts, hchronicle, ?_⟩, ?_⟩
  · intro m hm message haction
    exact guarded_of_running (hchronicle.passes.running.2 m hm) haction
  · intro mark later
    exact outcomes_mark mark hleft later

/-- Who listens asks on every line that the run stop, and starts another one: the search is
    the only stage, and makes the only fetch. -/
example : ((start ()).run { Surroundings.oneLink with listener := fun _ s => (⟨true, true⟩, s) }
    .oneLink "k").debugger.session.fetches.length = 1 := by decide +kernel

end Runs

end Debugger

end Gleaner
