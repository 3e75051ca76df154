/-
  Gleaner/Proofs/Debug/Legible.lean
  =================================
  **A run can be read off its lines.**  The lines that announce a fetch name the addresses
  that were fetched, in order, and the line after such a one tells what came of the fetch:
  the status of the reply, or the failure of the stage (`exchanges`).  The titles of the
  stages come in their order, the last line tells how the run ended, and who listens has
  heard exactly these lines (`run_is_legible`).

  All this is read off how the run unfolds, for its moments and for what it comes to.
-/
import Gleaner.Proofs.Debug.Control
import Gleaner.Proofs.Debug.Report
import Gleaner.Proofs.Text.Trim
import Mathlib.Data.List.Forall2

namespace Gleaner

variable {σ : Type}

/-! ### Reading messages -/

/-- The message of a line, which follows a stamp of eight characters in brackets. -/
def Trace.message (line : String) : String := String.ofList (line.toList.drop 11)

theorem Trace.message_stamped {stamp : String} (h : stamp.length = 8) (message : String) :
    Trace.message (Trace.stamped stamp message) = message := by
  unfold Trace.message Trace.stamped
  have hfront : ("[" ++ stamp ++ "] ").toList.length = 11 := by
    simp [String.length_toList, h]
  rw [String.toList_append, ← hfront, List.drop_left, String.ofList_toList]

def announced? (message : String) : Option String :=
  (Text.dropFront? announcement.toList message.toList).map String.ofList

/-- The addresses announced in some messages, each with the message after it. -/
def exchanges : List String → List (String × Option String)
  | [] => []
  | message :: more =>
      match announced? message with
      | some url => (url, more.head?) :: exchanges more
      | none => exchanges more

def isTitle (message : String) : Bool := Text.startsWith titleOpening.toList message.toList

theorem announced?_announcement (url : String) : announced? (announcement ++ url) = some url := by
  unfold announced?
  rw [Text.dropFront?_eq_some_iff.mpr (String.toList_append ..)]
  simp

theorem isTitle_announcement (url : String) : isTitle (announcement ++ url) = false := by
  unfold isTitle Text.startsWith
  rw [String.toList_append, dropFront?_of_differ (differ_append (by decide) url.toList)]
  rfl

theorem announced?_title (stage : Stage) : announced? stage.title = none := by
  cases stage <;> decide

theorem isTitle_title (stage : Stage) : isTitle stage.title = true := by
  cases stage <;> decide

theorem StartsPlain.announced? {message : String} (h : StartsPlain message) :
    announced? message = none := by
  unfold Gleaner.announced?
  rw [dropFront?_of_differ h.2]
  rfl

theorem StartsPlain.isTitle {message : String} (h : StartsPlain message) :
    isTitle message = false := by
  unfold Gleaner.isTitle Text.startsWith
  rw [dropFront?_of_differ h.1]
  rfl

/-- What is said after an announcement tells what came of the fetch. -/
def Accounts (ending : Ending) (said : Option String) : Except Fault Reply → Prop
  | .ok reply => said = some (Debug.statusLine reply)
  | .error e => ∃ stage, ending = .aborted stage ∧ said = some (stage.failure e)

/-- The announcements in some messages are those of the calls, and tell what came of them. -/
def Agrees (ending : Ending) (messages : List String) (calls : List FetchCall) : Prop :=
  List.Forall₂ (fun x (c : FetchCall) => x.1 = c.url ∧ Accounts ending x.2 c.result)
    (exchanges messages) calls

section Agreement

variable {ending : Ending} {message : String} {rest : List String} {calls : List FetchCall}

theorem agrees_nil : Agrees ending [] [] := .nil

theorem Agrees.remark (hrest : Agrees ending rest calls) (h : announced? message = none) :
    Agrees ending (message :: rest) calls := by
  unfold Agrees exchanges
  rw [h]
  exact hrest

theorem Agrees.announcement (call : FetchCall) (hrest : Agrees ending rest calls)
    (h : Accounts ending rest.head? call.result) :
    Agrees ending ((Gleaner.announcement ++ call.url) :: rest) (call :: calls) := by
  unfold Agrees exchanges
  rw [announced?_announcement]
  exact .cons ⟨rfl, h⟩ hrest

end Agreement

/-! ### Moments -/

def Moment.message? (m : Moment σ) : Option String :=
  match m.action with
  | .say message => some message
  | _ => none

def said (ms : List (Moment σ)) : List String := ms.filterMap Moment.message?

theorem said_append (ms ms' : List (Moment σ)) : said (ms ++ ms') = said ms ++ said ms' :=
  List.filterMap_append

/-- How a run ends, if it does not come to a fault. -/
def ending? : Except Halt Unit → Option Ending
  | .ok () => some .completed
  | .error (.ended ending) => some ending
  | .error (.fault _) => none

section Readings

variable {env : Surroundings σ} {p : FetchPolicy} {ms : List (Moment σ)} {fault : Option Fault}
  {ending : Ending} {stages : List Stage} {result : Except Halt Unit} {rest : List String}
  {calls : List FetchCall}

/-! #### The fetches -/

/-- What is done by the way neither announces a fetch nor makes one. -/
theorem Asides.agrees (h : Asides ms) (hrest : Agrees ending rest calls) :
    Agrees ending (said ms ++ rest) (ms.filterMap (·.call? env p) ++ calls) := by
  induction ms with
  | nil => exact hrest
  | cons m ms ih =>
    obtain ⟨d, action⟩ := m
    have hms := ih fun m hm => h m (List.mem_cons_of_mem _ hm)
    cases h _ List.mem_cons_self with
    | say hmessage => exact hms.remark hmessage.announced?
    | read body => exact hms

/-- If the stage fails, what follows starts with the words for that. -/
theorem Tale.agrees (h : Tale env p ms fault) (hrest : Agrees ending rest calls)
    (hfault : ∀ e, fault = some e → e.endsStage = true
      ∧ ∃ stage more, ending = .aborted stage ∧ rest = stage.failure e :: more) :
    Agrees ending (said ms ++ rest) (ms.filterMap (·.call? env p) ++ calls) := by
  cases h with
  | quiet h => exact h.agrees hrest
  | @answered front back d d₁ d₂ url headers reply fault hfront hfetch hback =>
    rw [said_append, List.filterMap_append, List.append_assoc, List.append_assoc]
    refine hfront.agrees (Agrees.announcement ⟨url, headers, _⟩ ?_ ?_)
    · exact (hback.agrees hrest).remark (Debug.startsPlain_statusLine reply).announced?
    · dsimp only
      rw [hfetch]
      rfl
  | @unanswered front d d₁ url headers e hfront hfetch =>
    -- the words of the failed stage come right after the announcement
    obtain ⟨-, stage, more, rfl, rfl⟩ := hfault e rfl
    rw [said_append, List.filterMap_append, List.append_assoc, List.append_assoc]
    refine hfront.agrees (Agrees.announcement ⟨url, headers, _⟩ hrest ?_)
    dsimp only
    rw [hfetch]
    exact ⟨stage, rfl, rfl⟩
  | lost _ he =>
    obtain ⟨hends, -⟩ := hfault _ rfl
    rw [he] at hends
    cases hends

theorem Part.agrees {q : Part σ}
    (h : Agrees ending (said q.rest ++ rest) (q.rest.filterMap (·.call? env p) ++ calls)) :
    Agrees ending (said q.moments ++ rest) (q.moments.filterMap (·.call? env p) ++ calls) :=
  (h.remark (announced?_title q.stage)).remark (by decide)

/-- The lines of a run account for its fetches, by induction on the stages. -/
theorem Unfolds.agrees (h : Unfolds env p stages ms result)
    (hending : ending? result = some ending) :
    Agrees ending (said ms) (ms.filterMap (·.call? env p)) := by
  have hclosing : ∀ ending' : Ending, Agrees ending [ending'.closing] [] :=
    fun ending' => agrees_nil.remark (startsPlain_closing ending').announced?
  induction h with
  | completed => exact (hclosing .completed).remark (by decide)
  | stopped => exact hclosing .stopped
  | @aborted stages which d d₁ message hmessage =>
      exact (hclosing (.aborted which)).remark hmessage.announced?
  | fault => cases hending
  | remark hmessage _ ih => exact (ih hending).remark hmessage.announced?
  | stage _ htale _ ih =>
    rw [said_append, List.filterMap_append]
    exact Part.agrees (htale.agrees (ih hending) fun e he => nomatch he)
  | @failed stages q e d d₁ _ htale he =>
    cases hending
    rw [said_append, List.filterMap_append]
    refine Part.agrees
      (htale.agrees ((hclosing _).remark (startsPlain_failure q.stage e).announced?) ?_)
    rintro _ ⟨⟩
    exact ⟨he, q.stage, _, rfl, rfl⟩
  | derailed => cases hending

/-! #### The titles -/

theorem filter_remark {message : String} (h : isTitle message = false) (more : List String) :
    (message :: more).filter isTitle = more.filter isTitle :=
  List.filter_cons_of_neg (by rw [h]; exact Bool.false_ne_true)

theorem Asides.no_titles (h : Asides ms) : (said ms).filter isTitle = [] := by
  induction ms with
  | nil => rfl
  | cons m ms ih =>
    obtain ⟨d, action⟩ := m
    have hms := ih fun m hm => h m (List.mem_cons_of_mem _ hm)
    cases h _ List.mem_cons_self with
    | say hmessage => exact (filter_remark hmessage.isTitle _).trans hms
    | read body => exact hms

theorem Tale.no_titles (h : Tale env p ms fault) : (said ms).filter isTitle = [] := by
  cases h with
  | quiet h => exact h.no_titles
  | @answered front back d d₁ d₂ url headers reply fault hfront _ hback =>
    have hmiddle : (said (⟨d, .say (announcement ++ url)⟩ :: ⟨d₁, .fetch url headers⟩
        :: ⟨d₂, .say (Debug.statusLine reply)⟩ :: back)).filter isTitle = [] := by
      refine (filter_remark (isTitle_announcement url) _).trans ?_
      exact (filter_remark (Debug.startsPlain_statusLine reply).isTitle _).trans hback.no_titles
    rw [said_append, List.filter_append, hfront.no_titles, hmiddle, List.nil_append]
  | @unanswered front d d₁ url headers e hfront _ =>
    rw [said_append, List.filter_append, hfront.no_titles, List.nil_append]
    exact filter_remark (isTitle_announcement url) []
  | @lost front d url e hfront _ =>
    rw [said_append, List.filter_append, hfront.no_titles, List.nil_append]
    exact filter_remark (isTitle_announcement url) []

theorem Part.titles {q : Part σ} (h : Tale env p q.rest fault) :
    (said q.moments).filter isTitle = [q.stage.title] := by
  have hsaid : said q.moments = "" :: q.stage.title :: said q.rest := rfl
  rw [hsaid, filter_remark (by decide), List.filter_cons_of_pos (isTitle_title q.stage),
    h.no_titles]

/-- The titles that are said are those of the first stages ahead. -/
theorem Unfolds.titles (h : Unfolds env p stages ms result) :
    ∃ reached, reached <+: stages ∧ (said ms).filter isTitle = reached.map Stage.title := by
  have hclosing : ∀ ending : Ending, [ending.closing].filter isTitle = [] :=
    fun ending => filter_remark (startsPlain_closing ending).isTitle []
  induction h with
  | completed =>
      exact ⟨[], List.nil_prefix, (filter_remark (by decide) _).trans (hclosing .completed)⟩
  | stopped => exact ⟨[], List.nil_prefix, hclosing .stopped⟩
  | @aborted stages which d d₁ message hmessage =>
    exact ⟨[], List.nil_prefix,
      (filter_remark hmessage.isTitle _).trans (hclosing (.aborted which))⟩
  | fault => exact ⟨[], List.nil_prefix, rfl⟩
  | remark hmessage _ ih =>
    obtain ⟨reached, hreached, htitles⟩ := ih
    exact ⟨reached, hreached, (filter_remark hmessage.isTitle _).trans htitles⟩
  | @stage stages q ms result _ htale _ ih =>
    obtain ⟨reached, hreached, htitles⟩ := ih
    refine ⟨q.stage :: reached, List.cons_prefix_cons.mpr ⟨rfl, hreached⟩, ?_⟩
    rw [said_append, List.filter_append, Part.titles htale, htitles]
    rfl
  | @failed stages q e d d₁ _ htale _ =>
    refine ⟨[q.stage], List.cons_prefix_cons.mpr ⟨rfl, List.nil_prefix⟩, ?_⟩
    rw [said_append, List.filter_append, Part.titles htale]
    exact congrArg _ ((filter_remark (startsPlain_failure q.stage e).isTitle _).trans
      (hclosing (.aborted q.stage)))
  | @derailed stages q e _ htale =>
    exact ⟨[q.stage], List.cons_prefix_cons.mpr ⟨rfl, List.nil_prefix⟩, Part.titles htale⟩

/-! #### The end -/

/-- The last line of a run that does not end in a fault tells how it ended. -/
theorem Unfolds.last (h : Unfolds env p stages ms result) (hending : ending? result = some ending) :
    (said ms).getLast? = some ending.closing ∧ ending ≠ .refused := by
  induction h with
  | completed => cases hending; exact ⟨rfl, Ending.noConfusion⟩
  | stopped => cases hending; exact ⟨rfl, Ending.noConfusion⟩
  | aborted => cases hending; exact ⟨rfl, Ending.noConfusion⟩
  | fault => cases hending
  | @remark stages d message ms result _ _ ih =>
    obtain ⟨hlast, hfirm⟩ := ih hending
    refine ⟨?_, hfirm⟩
    change (message :: said ms).getLast? = _
    rw [List.getLast?_cons, hlast]
    rfl
  | stage _ _ _ ih =>
    obtain ⟨hlast, hfirm⟩ := ih hending
    refine ⟨?_, hfirm⟩
    rw [said_append, List.getLast?_append, hlast]
    rfl
  | failed =>
    cases hending
    refine ⟨?_, Ending.noConfusion⟩
    rw [said_append, List.getLast?_append]
    rfl
  | derailed => cases hending

end Readings

/-! ### Reports -/

def Stage.number : Stage → Nat
  | .search => 1
  | .detail => 2
  | .toc => 3
  | .content => 4

theorem Stage.pairwise_ahead (keyword : String) :
    (Stage.ahead keyword).Pairwise fun stage stage' => stage.number < stage'.number := by
  unfold Stage.ahead
  split <;> decide

/-- The messages of the lines are what was said, since every stamp has the same length. -/
theorem messages_eq_said {env : Surroundings σ} (hclock : ∀ s, (env.stamp s).length = 8)
    (ms : List (Moment σ)) : (ms.filterMap (·.line? env)).map Trace.message = said ms := by
  unfold said
  rw [List.map_filterMap]
  refine List.filterMap_congr fun m _ => ?_
  unfold Moment.line? Moment.message?
  cases m.action with
  | say message => exact congrArg some (Trace.message_stamped (hclock _) message)
  | fetch url headers => rfl
  | read body => rfl

section Reports

variable {env : Surroundings σ} {t : Task} {keyword : String} {d : Debugger σ} {report : Report}

section Closing

variable (h : report.ending ≠ .refused)

include h

theorem closing_completed :
    some report.ending.closing = some "✓ Debug run complete" ↔ report.ending = .completed := by
  cases hending : report.ending with
  | refused => exact absurd hending h
  | _ => simp [Ending.closing]

theorem closing_aborted :
    some report.ending.closing = some "✗ Run aborted" ↔ report.abortedAt? ≠ none := by
  unfold Report.abortedAt?
  cases hending : report.ending with
  | refused => exact absurd hending h
  | _ => simp [Ending.closing]

theorem closing_stopped :
    some report.ending.closing = some "⏹ Stop requested; ending run" ↔ report.stopped = true := by
  unfold Report.stopped
  cases hending : report.ending with
  | refused => exact absurd hending h
  | _ => simp [Ending.closing]

end Closing

theorem Report.Shows.ending {v : Report.Verdict} (h : report.Shows keyword v) :
    v = .completed ↔ report.ending = .completed := by
  cases v with
  | completed =>
    have haborted := h.abortedAt
    have hstopped := h.stopped
    unfold Report.abortedAt? at haborted
    unfold Report.stopped at hstopped
    cases hending : report.ending with
    | completed => simp
    | stopped => simp [hending] at hstopped
    | aborted stage => simp [hending] at haborted
    | refused => simp [hending] at haborted
  | stopped =>
    have hending : report.ending = .stopped := of_decide_eq_true h.stopped
    simp [hending]
  | aborted stage =>
    have haborted := h.abortedAt
    unfold Report.abortedAt? at haborted
    cases hending : report.ending with
    | completed => simp [hending] at haborted
    | _ => simp

namespace Debugger

/-- A report tells that the run was completed exactly if it ended so. -/
theorem completed_iff_ending (hidle : d.running = false)
    (h : (d.run env t keyword).result = .ok report) :
    report.completed = true ↔ report.ending = .completed := by
  obtain ⟨f, u, lines, -, -, hcourse, hresult⟩ := run_course env t keyword hidle
  rw [hresult] at h
  obtain ⟨ending, hending, rfl⟩ := map_eq_ok.mp h
  obtain ⟨v, hshows, -⟩ := (hcourse.leaves (start_before (Text.trim keyword))).shows lines hending
  exact hshows.completed_iff.trans hshows.ending

/-- What can be read off the lines of a report. -/
structure Legible (env : Surroundings σ) (t : Task) (keyword : String) (d : Debugger σ)
    (report : Report) : Prop where
  /-- The announcements are those of the fetches of the run, in order, and what is said after
      one of them tells what came of the fetch. -/
  exchanges : ∃ calls, (d.run env t keyword).debugger.session.fetches = d.session.fetches ++ calls
    ∧ List.Forall₂ (fun x (c : FetchCall) => x.1 = c.url ∧ Accounts report.ending x.2 c.result)
      (Gleaner.exchanges (report.lines.map Trace.message)) calls
  titles : ∃ stages : List Stage,
    (report.lines.map Trace.message).filter isTitle = stages.map Stage.title
    ∧ stages.Pairwise fun stage stage' => stage.number < stage'.number
  completed : (report.lines.map Trace.message).getLast? = some "✓ Debug run complete"
    ↔ report.completed = true
  aborted : (report.lines.map Trace.message).getLast? = some "✗ Run aborted"
    ↔ report.abortedAt? ≠ none
  stopped : (report.lines.map Trace.message).getLast? = some "⏹ Stop requested; ending run"
    ↔ report.stopped = true
  /-- Unless other runs are started meanwhile, who listens hears the lines of the report. -/
  heard : (d.run env t keyword).refusals = [] →
    (d.run env t keyword).debugger.session.heard = d.session.heard ++ report.lines

theorem ending?_of_report {x : Except Halt Unit × Run σ}
    (h : (RunResult.ofStages x).result = .ok report) :
    ending? x.1 = some report.ending := by
  rcases x with ⟨(ending | f) | u, r⟩
  · cases h
    rfl
  · cases h
  · cases h
    rfl

/-- Whatever the network answers and wherever it is stopped, a run that gives a report can be
    read off its lines. -/
theorem run_is_legible (env : Surroundings σ) (t : Task) (keyword : String) (d : Debugger σ)
    (report : Report) (hclock : ∀ s, (env.stamp s).length = 8) (hidle : d.running = false)
    (h : (d.run env t keyword).result = .ok report) : d.Legible env t keyword report := by
  obtain ⟨ms, x, hrun, hr, hend, hunfolds⟩ := run_unfolds env t keyword hidle
  have hreport : (RunResult.ofStages x).result = .ok report := by rw [← hrun, h]
  have hending : ending? x.1 = some report.ending := ending?_of_report hreport
  have hsession : (d.run env t keyword).debugger.session = x.2.debugger.session := by
    rw [hrun, ← hend]
  have hlines : report.lines = ms.filterMap (·.line? env) := by
    rw [RunResult.lines_ofStages hreport, hr.lines]
    rfl
  have hsaid : report.lines.map Trace.message = said ms := by
    rw [hlines]
    exact messages_eq_said hclock ms
  obtain ⟨hlast, hfirm⟩ := hunfolds.last hending
  rw [← hsaid] at hlast
  constructor
  case exchanges =>
    refine ⟨_, by rw [hsession]; exact hr.passes.fetches, ?_⟩
    rw [hsaid]
    exact hunfolds.agrees hending
  case titles =>
    obtain ⟨reached, hreached, htitles⟩ := hunfolds.titles
    rw [hsaid]
    exact ⟨reached, htitles, (Stage.pairwise_ahead _).sublist hreached.sublist⟩
  case completed =>
    rw [hlast, completed_iff_ending hidle h]
    exact closing_completed hfirm
  case aborted =>
    rw [hlast]
    exact closing_aborted hfirm
  case stopped =>
    rw [hlast]
    exact closing_stopped hfirm
  case heard =>
    intro halone
    have hquiet : ms.filterMap (·.refusal? env) = [] := by
      rw [hrun] at halone
      rw [← halone]
      exact hr.refusals.symm
    rw [hsession, hlines]
    exact hr.passes.heard hquiet

end Debugger

end Reports

/-- The small site, with a clock that stands still. -/
def Surroundings.timedLink : Surroundings Unit := { oneLink with stamp := fun _ => "12:34:56" }

theorem timedLink_is_legible : ∃ report,
    ((Debugger.start ()).run .timedLink .oneLink "k").result = .ok report ∧ report.completed = true
      ∧ (Debugger.start ()).Legible .timedLink .oneLink "k" report := by
  have hclock : ("12:34:56" : String).length = 8 := by decide
  obtain ⟨report, h, hcompleted⟩ := exists_ok_of_any
    (x := ((Debugger.start ()).run .timedLink .oneLink "k").result) (p := Report.completed)
      (by decide +kernel)
  refine ⟨report, h, hcompleted, ?_⟩
  exact Debugger.run_is_legible .timedLink .oneLink "k" (.start ()) report (fun _ => hclock) rfl h

end Gleaner
