/-
  Gleaner/Proofs/Debug/Step.lean
  ==============================
  **What a step of a run may do.**  `Spec net p work f Φ` says of steps that start from
  the findings `f`: whatever the network answers and the listener wishes, the fetches that
  they make, the findings that they leave and their result satisfy `Φ`.  There is one rule
  for each way to put steps together and one for each step that a stage is made of.

  What a run says is no part of this: a line changes neither the log of fetches nor the
  findings, whoever hears it (`fetches_log`, `findings_log`).
-/
import Gleaner.Debug.Run
import Gleaner.Proofs.Fetch.Log

namespace Gleaner

variable {σ α β : Type}

/-! ### Lines -/

namespace Debugger

@[simp] theorem session_stop (d : Debugger σ) : d.stop.session = d.session := by
  unfold stop
  split <;> rfl

theorem fetches_tell (env : Surroundings σ) (line : String) (d : Debugger σ) :
    (d.tell env line).2.session.fetches = d.session.fetches := by
  have hline : (d.session.note (.traced line)).fetches = d.session.fetches := by
    rw [Session.fetches_note]
    exact List.append_nil _
  unfold tell
  dsimp only
  split
  · rw [session_stop]; exact hline
  · exact hline

theorem fetches_refuse (env : Surroundings σ) (d : Debugger σ) :
    (d.refuse env).2.session.fetches = d.session.fetches :=
  fetches_tell env _ d

end Debugger

namespace Run

def fetches (r : Run σ) : List FetchCall := r.debugger.session.fetches

@[simp] theorem fetches_log (env : Surroundings σ) (message : String) (r : Run σ) :
    (r.log env message).fetches = r.fetches := by
  unfold log
  dsimp only
  split
  · exact (Debugger.fetches_refuse env _).trans (Debugger.fetches_tell env _ _)
  · exact Debugger.fetches_tell env _ _

@[simp] theorem findings_log (env : Surroundings σ) (message : String) (r : Run σ) :
    (r.log env message).findings = r.findings := by
  unfold log
  dsimp only
  split <;> rfl

end Run

/-! ### Fetches and their pages -/

namespace FetchCall

/-- The fetch is one that the network answers so in some session. -/
def MadeOn (net : Network σ) (p : FetchPolicy) (c : FetchCall) : Prop :=
  ∃ s s', Fetching.fetch net p c.url c.headers s = (c.result, s')

/-- The reply of a fetch and the page that it holds; only a status of success gives a
    page. -/
def read (c : FetchCall) : Except Fault (Reply × Page) :=
  match c.result with
  | .error e => .error e
  | .ok reply =>
      if reply.isOk then (Page.read (.bytes reply.body)).map (reply, ·)
      else .error (.status "Request failed" (some c.url) reply.status)

theorem read_of_error {c : FetchCall} {e : Fault} (h : c.result = .error e) :
    c.read = .error e := by
  unfold read
  rw [h]

theorem read_of_isOk {c : FetchCall} {reply : Reply} (h : c.result = .ok reply)
    (hok : reply.isOk = true) : c.read = (Page.read (.bytes reply.body)).map (reply, ·) := by
  unfold read
  rw [h]
  exact if_pos hok

theorem read_of_not_isOk {c : FetchCall} {reply : Reply} (h : c.result = .ok reply)
    (hok : ¬ reply.isOk = true) :
    c.read = .error (.status "Request failed" (some c.url) reply.status) := by
  unfold read
  rw [h]
  exact if_neg hok

end FetchCall

/-- What comes of loading a page: the fetches made for it, one or none, and what was
    read. -/
inductive Loads (t : Task) (url : String) : List FetchCall → Except Fault (Reply × Page) → Prop
  | unasked {e : Fault} (h : t.source.requestHeaders = .error e) : Loads t url [] (.error e)
  | asked (c : FetchCall) (hurl : c.url = url) (h : t.source.requestHeaders = .ok c.headers) :
      Loads t url [c] c.read

namespace Running

/-- What steps may come to: the fetches they make, the findings they leave, and their
    result. -/
abbrev Post (α : Type) := List FetchCall → Findings → Except Halt α → Prop

def Gives (f : Findings) (x : Except Halt α) : Post α :=
  fun cs f' result => cs = [] ∧ f' = f ∧ result = x

def Spec (net : Network σ) (p : FetchPolicy) (work : Running σ α) (f : Findings) (Φ : Post α) :
    Prop :=
  ∀ r : Run σ, r.findings = f → ∃ cs, (work r).2.fetches = r.fetches ++ cs
    ∧ (∀ c ∈ cs, c.MadeOn net p) ∧ Φ cs (work r).2.findings (work r).1

section Rules

variable {net : Network σ} {p : FetchPolicy} {env : Surroundings σ} {f : Findings}

/-! ### Steps put together -/

theorem Spec.mono {work : Running σ α} {Φ Ψ : Post α} (h : Spec net p work f Φ)
    (hΦ : ∀ cs f' result, Φ cs f' result → Ψ cs f' result) : Spec net p work f Ψ := by
  intro r hr
  obtain ⟨cs, hcalls, hmade, hpost⟩ := h r hr
  exact ⟨cs, hcalls, hmade, hΦ _ _ _ hpost⟩

theorem spec_pure {a : α} {Φ : Post α} (h : Φ [] f (.ok a)) : Spec net p (pure a) f Φ := by
  rintro r rfl
  exact ⟨[], by simp, by simp, h⟩

theorem spec_throw {e : Halt} {Φ : Post α} (h : Φ [] f (.error e)) :
    Spec net p (throw e : Running σ α) f Φ := by
  rintro r rfl
  exact ⟨[], by simp, by simp, h⟩

/-- What the first part of some steps has to come to so that the whole comes to `Ψ`.  The
    fetches of the second part, `k`, follow those of the first. -/
def before (net : Network σ) (p : FetchPolicy) (k : α → Running σ β) (Ψ : Post β) : Post α :=
  fun cs f' result => match result with
    | .ok a => Spec net p (k a) f' fun cs' => Ψ (cs ++ cs')
    | .error e => Ψ cs f' (.error e)

/-- Steps are specified by what their first part has to come to for the rest. -/
theorem spec_bind {x : Running σ α} {k : α → Running σ β} {Ψ : Post β}
    (h : Spec net p x f (before net p k Ψ)) : Spec net p (x >>= k) f Ψ := by
  intro r hr
  obtain ⟨cs, hcalls, hmade, hpost⟩ := h r hr
  rw [bind_run]
  rcases hrun : x r with ⟨result, r'⟩
  rw [hrun] at hcalls hpost
  cases result with
  | error e => exact ⟨cs, hcalls, hmade, hpost⟩
  | ok a =>
    obtain ⟨cs', hcalls', hmade', hpost'⟩ := hpost r' rfl
    refine ⟨cs ++ cs', ?_, ?_, hpost'⟩
    · rw [← List.append_assoc, ← hcalls, hcalls']
    · intro c hc
      rcases List.mem_append.mp hc with hc | hc
      · exact hmade c hc
      · exact hmade' c hc

/-- Steps after one that makes no fetch and cannot fail. -/
theorem spec_then {x : Running σ α} {k : α → Running σ β} {a : α} {f' : Findings} {Ψ : Post β}
    (hx : Spec net p x f (Gives f' (.ok a)))
    (hk : Spec net p (k a) f' Ψ) : Spec net p (x >>= k) f Ψ := by
  refine spec_bind (hx.mono ?_)
  rintro cs f'' result ⟨rfl, rfl, rfl⟩
  exact hk

/-! ### Single steps -/

theorem spec_log (message : String) : Spec net p (log env message) f (Gives f (.ok ())) := by
  rintro r rfl
  refine ⟨[], ?_, by simp, rfl, Run.findings_log env message r, rfl⟩
  rw [List.append_nil]
  exact Run.fetches_log env message r

theorem spec_logAll (messages : List String) :
    Spec net p (logAll env messages) f (Gives f (.ok ())) := by
  induction messages with
  | nil => exact spec_pure ⟨rfl, rfl, rfl⟩
  | cons message more ih => exact spec_then (spec_log message) ih

theorem spec_ofResult {x : Except Fault α} {Φ : Post α} (h : Φ [] f (x.mapError .fault)) :
    Spec net p (ofResult x : Running σ α) f Φ := by
  cases x with
  | ok a => exact spec_pure h
  | error e => exact spec_throw h

theorem spec_found (g : Findings → Findings) :
    Spec net p (found g : Running σ Unit) f (Gives (g f) (.ok ())) := by
  rintro r rfl
  exact ⟨[], by rw [List.append_nil]; rfl, by simp, rfl, rfl, rfl⟩

theorem spec_ofFetching {work : Fetching σ α} {Φ : Post α}
    (h : ∀ s, ∃ cs, (work s).2.fetches = s.fetches ++ cs ∧ (∀ c ∈ cs, c.MadeOn net p)
      ∧ Φ cs f ((work s).1.mapError .fault)) : Spec net p (ofFetching work) f Φ := by
  rintro r rfl
  exact h r.debugger.session

theorem spec_fetch {url : String} {headers : List (String × String)} {Φ : Post Reply}
    (h : ∀ c : FetchCall, c.url = url → c.headers = headers → Φ [c] f (c.result.mapError .fault)) :
    Spec net p (ofFetching (Fetching.fetch net p url headers)) f Φ := by
  refine spec_ofFetching fun s => ?_
  have hlog := Fetching.fetches_fetch net p url headers s
  rcases hrun : Fetching.fetch net p url headers s with ⟨result, s'⟩
  rw [hrun] at hlog
  refine ⟨[⟨url, headers, result⟩], hlog, ?_, h ⟨url, headers, result⟩ rfl rfl⟩
  intro c hc
  rw [List.mem_singleton.mp hc]
  exact ⟨s, s', hrun⟩

theorem spec_receive {body : Body} {Φ : Post Page} (h : Φ [] f ((Page.read body).mapError .fault)) :
    Spec net p (ofFetching (Page.receive body)) f Φ := by
  refine spec_ofFetching fun s => ⟨[], ?_, by simp, ?_⟩
  · rw [List.append_nil]
    exact (Fetching.routine_receive body).fetches s
  · rw [Fetching.receive_result]
    exact h

/-- At a boundary a stop that was asked for ends the run. -/
theorem boundary_of_stopRequested (env : Surroundings σ) {r : Run σ}
    (h : r.debugger.stopRequested = true) :
    boundary env r = (.error (.ended .stopped), r.log env "⏹ Stop requested; ending run") := by
  unfold boundary
  rw [bind_run]
  change (if r.debugger.stopRequested = true then _ else _ : Running σ Unit) r = _
  rw [if_pos h]
  rfl

theorem boundary_of_not_stopRequested (env : Surroundings σ) {r : Run σ}
    (h : ¬ r.debugger.stopRequested = true) : boundary env r = (.ok (), r) := by
  unfold boundary
  rw [bind_run]
  change (if r.debugger.stopRequested = true then _ else _ : Running σ Unit) r = _
  rw [if_neg h]
  rfl

theorem spec_boundary {Φ : Post Unit} (hgo : Φ [] f (.ok ()))
    (hstop : Φ [] f (.error (.ended .stopped))) :
    Spec net p (boundary env) f Φ := by
  rintro r rfl
  by_cases h : r.debugger.stopRequested = true
  · rw [boundary_of_stopRequested env h]
    refine ⟨[], by simp, by simp, ?_⟩
    simpa using hstop
  · rw [boundary_of_not_stopRequested env h]
    exact ⟨[], by simp, by simp, hgo⟩

theorem spec_abort {which : Stage} {Φ : Post α} (h : Φ [] f (.error (.ended (.aborted which)))) :
    Spec net p (abort env which : Running σ α) f Φ :=
  spec_then (spec_log _) (spec_then (spec_log _) (spec_throw h))

/-- What a stage makes of the result of its work: a fault that ends a stage is an abort
    there. -/
def staged (which : Stage) : Except Halt α → Except Halt α
  | .error (.fault e) => if e.endsStage then .error (.ended (.aborted which)) else .error (.fault e)
  | other => other

theorem staged_fault (which : Stage) (e : Fault) :
    staged which (.error (.fault e) : Except Halt α)
      = .error (if e.endsStage then .ended (.aborted which) else .fault e) := by
  by_cases h : e.endsStage = true
  · simp only [staged, h, if_true]
  · simp only [staged, h]
    rfl

/-- A stage is specified by its work, with faults that end a stage turned into the ending of
    the run. -/
theorem spec_stage {which : Stage} {work : Running σ α} {Φ : Post α}
    (h : Spec net p work f fun cs f' result => Φ cs f' (staged which result)) :
    Spec net p (stage env which work) f Φ := by
  intro r hr
  obtain ⟨cs, hcalls, hmade, hpost⟩ := h r hr
  refine ⟨cs, ?_⟩
  unfold stage
  rcases hrun : work r with ⟨result, r'⟩
  rw [hrun] at hcalls hpost
  rcases result with (ending | e) | a
  · exact ⟨hcalls, hmade, hpost⟩
  · by_cases he : e.endsStage = true
    · simp only [staged, he, if_true] at hpost
      simpa only [he, if_true, Run.fetches_log, Run.findings_log] using ⟨hcalls, hmade, hpost⟩
    · simp only [staged, he] at hpost
      simpa only [he] using ⟨hcalls, hmade, hpost⟩
  · exact ⟨hcalls, hmade, hpost⟩

/-! ### Reading a page -/

/-- Loading is specified by all the ways in which a page can be loaded. -/
theorem spec_load {t : Task} {url : String} {Φ : Post (Reply × Page)}
    (h : ∀ cs x, Loads t url cs x → Φ cs f (x.mapError .fault)) :
    Spec env.network t.policy (load env t url) f Φ := by
  unfold load
  refine spec_then (spec_log _) (spec_bind (spec_ofResult ?_))
  cases hh : t.source.requestHeaders with
  | error e => exact h [] _ (.unasked hh)
  | ok headers =>
    refine spec_bind (spec_fetch fun c hurl hc => ?_)
    have hpost := h [c] _ (.asked c hurl (hc ▸ hh))
    unfold FetchCall.read at hpost
    cases hresult : c.result with
    | error e => rw [hresult] at hpost; exact hpost
    | ok reply =>
      simp only [hresult] at hpost
      refine spec_then (spec_log _) ?_
      cases hok : reply.isOk with
      | false =>
        rw [hok] at hpost
        exact spec_bind (spec_throw (hurl ▸ hpost))
      | true =>
        rw [hok, if_pos rfl] at hpost
        refine spec_then (spec_log _) (spec_bind (spec_receive ?_))
        cases hpage : Page.read (.bytes reply.body) with
        | error e => rw [hpage] at hpost; exact hpost
        | ok page => rw [hpage] at hpost; exact spec_then (spec_log _) (spec_pure hpost)

end Rules

end Running

end Gleaner
