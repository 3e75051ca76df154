/-
  Gleaner/Proofs/Debug/Derail.lean
  ================================
  **Runs without a report.**  A stage that fails with one of the faults of fetching,
  parsing and configuring is told of in the report.  Any other fault ends the run without
  one.  On an orderly network there are five ways to come to such a fault (`Strays`): an
  address that cannot be made, headers that cannot be read, a redirect to nowhere, data
  with too long a number and a rule that fails.  A run has no report exactly if it comes
  to a position where one of these happens (`run_error_iff`).
-/
import Gleaner.Proofs.Debug.Report
import Gleaner.Proofs.Fetch.Fault
import Gleaner.Proofs.Page.Fault

namespace Gleaner

variable {σ : Type}

/-! ### Going astray -/

/-- From a position and findings a run comes to others, by these fetches. -/
inductive Comes (t : Task) : Position → Findings → List FetchCall → Position → Findings → Prop
  | here {p : Position} {f : Findings} : Comes t p f [] p f
  | onward {p q r : Position} {f f' f'' : Findings} {cs cs' : List FetchCall} {x : Reply × Page}
      (h : Arrives t p cs (.ok x)) (hx : p.yield t f x = .ok (f', .to q))
      (hq : Comes t q f' cs' r f'') : Comes t p f (cs ++ cs') r f''

/-- How the stage of a position goes astray: the fetches it makes, and the fault that it
    ends with. -/
inductive Strays (net : Network σ) (t : Task) (f : Findings) (p : Position) :
    List FetchCall → Fault → Prop
  /-- The address cannot be made. -/
  | address {e : Fault} (h : p.address t = .error e) : Strays net t f p [] e
  /-- The headers of the source cannot be read. -/
  | headers {url : String} {e : Fault} (ha : p.address t = .ok (some url))
      (h : t.source.requestHeaders = .error e) : Strays net t f p [] e
  /-- A reply redirects to an address that cannot be made. -/
  | redirect {c : FetchCall} {e : Fault} (ha : p.address t = .ok (some c.url))
      (hh : t.source.requestHeaders = .ok c.headers) (h : c.result = .error e)
      (hnet : net.Misdirects e) : Strays net t f p [c] e
  /-- The reply is data with a number that has too many digits. -/
  | data {c : FetchCall} {reply : Reply} {e : Fault} (ha : p.address t = .ok (some c.url))
      (hh : t.source.requestHeaders = .ok c.headers) (h : c.result = .ok reply)
      (hok : reply.isOk = true) (hread : Page.read (.bytes reply.body) = .error e)
      (hlong : Page.IsLongNumber e) : Strays net t f p [c] e
  /-- A rule of the stage fails on the page. -/
  | rules {cs : List FetchCall} {x : Reply × Page} {e : Fault} (h : Arrives t p cs (.ok x))
      (hx : p.yield t f x = .error e) : Strays net t f p cs e

namespace Debugger

/-- The run comes to a position where it goes astray. -/
def Derails (env : Surroundings σ) (t : Task) (keyword : String) (d : Debugger σ) (e : Fault) :
    Prop :=
  ∃ p f cs cs', Comes t (.start (Text.trim keyword)) .none cs p f
    ∧ Strays env.network t f p cs' e ∧ d.calls env t keyword = cs ++ cs'

/-- The run ends at a boundary, because that was asked for. -/
def Stops (env : Surroundings σ) (t : Task) (keyword : String) (d : Debugger σ) : Prop :=
  ∃ report, (d.run env t keyword).result = .ok report ∧ report.stopped = true

end Debugger

/-! ### One position -/

theorem Position.yield_fault {t : Task} {p : Position} {f : Findings} {x : Reply × Page} {e : Fault}
    (h : p.yield t f x = .error e) : e.endsStage = false := by
  apply Fault.IsRuleFault.endsStage
  cases p with
  | search keyword => exact Page.harvest_fault _ _ _ _ e (map_eq_error.mp h)
  | detail page url => exact Page.detail_fault _ _ e (map_eq_error.mp h)
  | toc book reply page => exact Page.harvest_fault _ _ _ _ e (map_eq_error.mp h)
  | text page first => exact Page.chapterText_fault _ _ e (map_eq_error.mp h)

section Fetches

variable {net : Network σ} {t : Task} {f : Findings} {p : Position}
  {cs : List FetchCall} {e : Fault}

/-- A stage that goes astray fails with a fault that it does not account for. -/
theorem Strays.fails (h : Strays net t f p cs e) :
    (∃ x, Arrives t p cs x ∧ (x.bind fun y => p.yield t f y) = .error e) ∧ e.endsStage = false := by
  cases h with
  | address ha => exact ⟨⟨.error e, .lost ha, rfl⟩, Position.address_fault ha⟩
  | headers ha hh =>
    obtain ⟨m, rfl⟩ := Source.requestHeaders_fault hh
    exact ⟨⟨.error _, .loads ha (.unasked hh), rfl⟩, rfl⟩
  | @redirect c _ ha hh hresult hnet =>
    have hread : c.read = .error e := FetchCall.read_of_error hresult
    exact ⟨⟨c.read, .loads ha (.asked c rfl hh), by rw [hread]; rfl⟩, hnet.endsStage⟩
  | @data c reply _ ha hh hresult hok hread hlong =>
    have hfailed : c.read = .error e :=
      (FetchCall.read_of_isOk hresult hok).trans (map_eq_error.mpr hread)
    obtain ⟨digits, rfl⟩ := hlong
    exact ⟨⟨c.read, .loads ha (.asked c rfl hh), by rw [hfailed]; rfl⟩, rfl⟩
  | @rules _ x _ hx hyield => exact ⟨⟨.ok x, hx, hyield⟩, Position.yield_fault hyield⟩

/-- There is no other way to fail like that, if the network is orderly. -/
theorem Arrives.strays {x : Except Fault (Reply × Page)} (hnet : net.Orderly)
    (hmade : ∀ c ∈ cs, c.MadeOn net t.policy) (h : Arrives t p cs x)
    (hx : (x.bind fun y => p.yield t f y) = .error e) (he : e.endsStage = false) :
    Strays net t f p cs e := by
  cases x with
  | ok y => exact .rules h hx
  | error e' =>
    obtain rfl : e' = e := Except.error.inj hx
    generalize hresult : (Except.error e' : Except Fault (Reply × Page)) = x at h
    cases h with
    | lost ha =>
      cases hresult
      exact .address ha
    | there htoc => cases hresult
    | @loads p url cs x ha hl =>
      cases hl with
      | unasked hh =>
        cases hresult
        exact .headers ha hh
      | asked c hurl hh =>
        subst hurl
        cases hc : c.result with
        | error e'' =>
          rw [FetchCall.read_of_error hc] at hresult
          cases hresult
          obtain ⟨s, s', hfetch⟩ := hmade c (List.mem_singleton.mpr rfl)
          have hpost := Fetching.fetch_fault (p := t.policy) hnet.failsIn c.url c.headers s
          rw [hfetch, hc] at hpost
          rcases hpost with hfetch | hmisdirects
          · rw [hfetch.endsStage] at he
            cases he
          · exact .redirect ha hh hc hmisdirects
        | ok reply =>
          by_cases hok : reply.isOk = true
          · rw [FetchCall.read_of_isOk hc hok] at hresult
            have hread := map_eq_error.mp hresult.symm
            rcases Page.read_fault _ _ hread with ⟨hlong, -⟩ | hends
            · exact .data ha hh hc hok hread hlong
            · rw [he] at hends
              cases hends
          · rw [FetchCall.read_of_not_isOk hc hok] at hresult
            cases hresult
            cases he

end Fetches

/-! ### Courses that fail -/

section Courses

variable {t : Task} {p q : Position} {f f' g : Findings} {cs cs' : List FetchCall} {u : Upshot}

theorem Comes.course (h : Comes t p f cs q f') (hq : Course t q f' cs' g u) :
    Course t p f (cs ++ cs') g u := by
  induction h with
  | here => exact hq
  | onward hx hlead hcomes ih =>
    rw [List.append_assoc]
    exact .onward hx hlead (ih hq)

/-- A course that fails comes to a position, by some of its fetches, and goes astray there.
    -/
theorem Course.comes {stage : Stage} {e : Fault} (h : Course t p f cs g (.failed stage e)) :
    ∃ q cs₁ cs₂ x, Comes t p f cs₁ q g ∧ cs = cs₁ ++ cs₂ ∧ Arrives t q cs₂ x
      ∧ (x.bind fun y => q.yield t g y) = .error e := by
  generalize hu : Upshot.failed stage e = u at h
  induction h with
  | stopped hp => cases hu
  | @failed p f cs x e' hx he =>
    cases hu
    exact ⟨p, [], cs, x, .here, rfl, hx, he⟩
  | stuck hx hlead => cases hu
  | home hx hlead => cases hu
  | @onward p q f f' f'' cs cs' x u hx hlead hq ih =>
    obtain ⟨r, cs₁, cs₂, y, hcomes, rfl, hy, he⟩ := ih hu
    exact ⟨r, cs ++ cs₁, cs₂, y, .onward hx hlead hcomes, (List.append_assoc _ _ _).symm, hy, he⟩

end Courses

/-- A run goes astray exactly if its course fails with a fault that no stage accounts for. -/
theorem Debugger.derails_iff {env : Surroundings σ} {t : Task} {keyword : String} {d : Debugger σ}
    {e : Fault} (hnet : env.network.Orderly)
    (hmade : ∀ c ∈ d.calls env t keyword, c.MadeOn env.network t.policy) :
    d.Derails env t keyword e ↔ ∃ f stage,
      Course t (.start (Text.trim keyword)) .none (d.calls env t keyword) f (.failed stage e)
        ∧ e.endsStage = false := by
  constructor
  · rintro ⟨p, f, cs, cs', hcomes, hstrays, hcalls⟩
    obtain ⟨⟨x, hx, he⟩, hends⟩ := hstrays.fails
    rw [hcalls]
    exact ⟨f, p.stage, hcomes.course (.failed hx he), hends⟩
  · rintro ⟨f, stage, hcourse, hends⟩
    obtain ⟨p, cs, cs', x, hcomes, hcalls, hx, he⟩ := hcourse.comes
    refine ⟨p, f, cs, cs', hcomes, hx.strays hnet ?_ he hends, hcalls⟩
    intro c hc
    exact hmade c (by rw [hcalls]; exact List.mem_append_right _ hc)

/-! ### Upshots and their reports -/

/-- A run ends in a fault exactly if a stage failed by one that does not end stages. -/
theorem Upshot.ending_eq_error {u : Upshot} {e : Fault} :
    u.ending = .error e ↔ ∃ stage, u = .failed stage e ∧ e.endsStage = false := by
  constructor
  · intro h
    cases u with
    | stopped => cases h
    | failed stage e' =>
      cases he : e'.endsStage with
      | true =>
        simp only [ending, he] at h
        cases h
      | false =>
        simp only [ending, he] at h
        cases h
        exact ⟨stage, rfl, he⟩
    | stuck stage => cases h
    | home => cases h
  · rintro ⟨stage, rfl, he⟩
    simp [ending, he]

theorem Upshot.ne_stopped_of_ending {u : Upshot} {f : Findings} {ending : Ending}
    {lines : List String} (hu : u.ending = .ok ending)
    (h : (Report.mk f ending lines).stopped = false) : u ≠ .stopped := by
  rintro rfl
  cases hu
  simp [Report.stopped] at h

theorem Upshot.abortedAt_of_ending {u : Upshot} {f : Findings} {ending : Ending}
    {lines : List String} (hu : u.ending = .ok ending) :
    (Report.mk f ending lines).abortedAt? = u.stage?.map Stage.name := by
  cases u with
  | stopped => cases hu; rfl
  | failed stage e =>
    simp only [Upshot.ending, Upshot.endsStage_of_ending hu, if_true] at hu
    cases hu
    rfl
  | stuck stage => cases hu; rfl
  | home => cases hu; rfl

theorem Upshot.ne_stopped_of_stage {u : Upshot} {stage : Stage} (h : u.stage? = some stage) :
    u ≠ .stopped := by
  rintro rfl
  cases h

theorem Stage.name_injective {a b : Stage} (h : a.name = b.name) : a = b := by
  cases a <;> cases b <;> first | rfl | exact absurd h (by decide)

/-! ### Which runs have a report -/

/-- On an orderly network a run has no report exactly if it goes astray and was not stopped
    before; the fault it ends with is the one that it comes to there.  Where there is a
    report, and the run was not stopped, the stage that it names is the one that could not
    be carried out. -/
theorem run_error_iff (env : Surroundings σ) (t : Task) (keyword : String) (d : Debugger σ)
    (hnet : env.network.Orderly) (hidle : d.running = false) :
    (∀ e, (d.run env t keyword).result = .error e
        ↔ d.Derails env t keyword e ∧ ¬ d.Stops env t keyword)
      ∧ ∀ report, (d.run env t keyword).result = .ok report → report.stopped = false →
        ∀ stage, d.FailsIn env t keyword stage ↔ report.abortedAt? = some stage.name := by
  obtain ⟨f, u, lines, -, hmade, hcourse, hresult⟩ := Debugger.run_course env t keyword hidle
  constructor
  · intro e
    rw [Debugger.derails_iff hnet hmade]
    constructor
    · intro herror
      rw [hresult, map_eq_error, Upshot.ending_eq_error] at herror
      obtain ⟨stage, rfl, he⟩ := herror
      refine ⟨⟨f, stage, hcourse, he⟩, ?_⟩
      rintro ⟨report, hreport, -⟩
      rw [hresult, map_eq_ok] at hreport
      obtain ⟨ending, hending, -⟩ := hreport
      rw [Upshot.endsStage_of_ending hending] at he
      cases he
    · rintro ⟨⟨f', stage, hcourse', he⟩, hnot⟩
      have hu : u ≠ .stopped := by
        rintro rfl
        exact hnot ⟨⟨f, .stopped, lines⟩, hresult, rfl⟩
      obtain ⟨-, rfl⟩ := hcourse.unique hcourse' hu (Upshot.ne_stopped_of_stage rfl)
      rw [hresult, map_eq_error, Upshot.ending_eq_error]
      exact ⟨stage, rfl, he⟩
  · intro report hreport hstopped stage
    rw [hresult, map_eq_ok] at hreport
    obtain ⟨ending, hending, rfl⟩ := hreport
    rw [Upshot.abortedAt_of_ending hending]
    constructor
    · rintro ⟨f', u', hcourse', hstage⟩
      have hu := Upshot.ne_stopped_of_ending hending hstopped
      obtain ⟨-, rfl⟩ := hcourse.unique hcourse' hu (Upshot.ne_stopped_of_stage hstage)
      rw [hstage]
      rfl
    · intro hname
      rw [Option.map_eq_some_iff] at hname
      obtain ⟨stage', hstage, hname⟩ := hname
      rw [Stage.name_injective hname] at hstage
      exact ⟨f, u, hcourse, hstage⟩

/-! ### A redirect to nowhere -/

/-- A site that redirects to an address which cannot be taken apart. -/
def Surroundings.astray : Surroundings Unit :=
  .quiet fun r s => (.reply ⟨r.url, 302, [], [("location", "http://[")]⟩, s)

theorem astray_error :
    ((Debugger.start ()).run .astray .oneLink "k").result = .error (.badValue "Invalid IPv6 URL") :=
  eq_error_of_decide (by decide +kernel)

theorem astray_orderly : Surroundings.astray.network.Orderly := fun _ _ _ h => nomatch h

theorem astray_derails : Surroundings.astray.network.Orderly
    ∧ (Debugger.start ()).Derails .astray .oneLink "k" (.badValue "Invalid IPv6 URL") := by
  have hnet := astray_orderly
  obtain ⟨hiff, -⟩ := run_error_iff .astray .oneLink "k" (Debugger.start ()) hnet rfl
  exact ⟨hnet, ((hiff _).mp astray_error).1⟩

/-- The server sends nothing but replies, and still the run has no report. -/
theorem astray_has_no_report :
    (∀ r s, ∃ reply, (Surroundings.astray.network r s).1 = .reply reply)
      ∧ ¬ ∃ report, ((Debugger.start ()).run .astray .oneLink "k").result = .ok report := by
  refine ⟨fun r s => ⟨_, rfl⟩, ?_⟩
  rintro ⟨report, hreport⟩
  rw [astray_error] at hreport
  cases hreport

end Gleaner
