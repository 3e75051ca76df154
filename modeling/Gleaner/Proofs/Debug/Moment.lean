/-
  Gleaner/Proofs/Debug/Moment.lean
  ================================
  **A run, moment by moment.**  At each moment of a run its debugger logs a line, fetches
  an address or reads a body, and who listens to a line may call the debugger back.  What
  a debugger is about to do determines what it is afterwards (`Moment.next`), so the
  moments of a run lead from the debugger that it starts with to the one that it leaves
  (`Passes`), and the lines, the refusals and the fetches of the run can be read off them.

  In a run nothing but a call of `stop` sets the mark that the run is to stop, and nothing
  takes it away (`Passes.stopRequested`).
-/
import Gleaner.Proofs.Debug.Step

namespace Gleaner

variable {σ α β : Type}

/-! ### What a debugger does -/

inductive Action where
  | say (message : String)
  | fetch (url : String) (headers : List (String × String))
  | read (body : Body)

structure Moment (σ : Type) where
  debugger : Debugger σ
  action : Action

namespace Debugger

def lineOf (env : Surroundings σ) (message : String) (d : Debugger σ) : String :=
  Trace.stamped (env.stamp d.session.network) message

/-- The debugger when who listens has heard a message; it can be called back now. -/
def told (env : Surroundings σ) (message : String) (d : Debugger σ) : Debugger σ :=
  (d.tell env (d.lineOf env message)).2

def wishOn (env : Surroundings σ) (message : String) (d : Debugger σ) : Wish :=
  (d.tell env (d.lineOf env message)).1

@[simp] theorem running_stop (d : Debugger σ) : d.stop.running = d.running := by
  unfold stop
  split <;> rfl

@[simp] theorem running_told (env : Surroundings σ) (message : String) (d : Debugger σ) :
    (d.told env message).running = d.running := by
  unfold told tell
  dsimp only
  split
  · exact running_stop _
  · rfl

theorem stopRequested_told (env : Surroundings σ) {d : Debugger σ} (message : String)
    (h : d.running = true) :
    (d.told env message).stopRequested = (d.stopRequested || (d.wishOn env message).stop) := by
  unfold told wishOn tell
  dsimp only
  split
  · next hstop => rw [hstop, Bool.or_true, stop, if_pos h]
  · next hstop => rw [Bool.not_eq_true] at hstop; rw [hstop, Bool.or_false]

theorem events_told (env : Surroundings σ) (message : String) (d : Debugger σ) :
    (d.told env message).session.events = d.session.events ++ [.traced (d.lineOf env message)] := by
  unfold told tell
  dsimp only
  split
  · rw [session_stop]
    rfl
  · rfl

theorem refuse_eq (env : Surroundings σ) (d : Debugger σ) :
    d.refuse env = (⟨.none, .refused, [d.lineOf env busyMessage]⟩, d.told env busyMessage) := rfl

end Debugger

namespace Moment

def line? (env : Surroundings σ) (m : Moment σ) : Option String :=
  match m.action with
  | .say message => some (m.debugger.lineOf env message)
  | _ => none

/-- The report of the run that is started on the line. -/
def refusal? (env : Surroundings σ) (m : Moment σ) : Option Report :=
  match m.action with
  | .say message =>
      if (m.debugger.wishOn env message).another then
        some ((m.debugger.told env message).refuse env).1
      else none
  | _ => none

/-- The run is asked to stop: on the line, or on that of the run which is started there. -/
def stops (env : Surroundings σ) (m : Moment σ) : Bool :=
  match m.action with
  | .say message =>
      let wish := m.debugger.wishOn env message
      wish.stop || (wish.another
        && ((m.debugger.told env message).wishOn env Debugger.busyMessage).stop)
  | _ => false

def call? (env : Surroundings σ) (p : FetchPolicy) (m : Moment σ) : Option FetchCall :=
  match m.action with
  | .fetch url headers =>
      some ⟨url, headers, (Fetching.fetch env.network p url headers m.debugger.session).1⟩
  | _ => none

def isFetch (m : Moment σ) : Bool :=
  match m.action with
  | .fetch _ _ => true
  | _ => false

def next (env : Surroundings σ) (p : FetchPolicy) (m : Moment σ) : Debugger σ :=
  match m.action with
  | .say message =>
      let d := m.debugger.told env message
      if (m.debugger.wishOn env message).another then d.told env Debugger.busyMessage else d
  | .fetch url headers =>
      { m.debugger with session := (Fetching.fetch env.network p url headers m.debugger.session).2 }
  | .read body => { m.debugger with session := (Page.receive body m.debugger.session).2 }

section Next

variable {env : Surroundings σ} {p : FetchPolicy}

@[simp] theorem running_next (m : Moment σ) : (m.next env p).running = m.debugger.running := by
  unfold next
  cases m.action with
  | say message =>
    dsimp only
    split <;> simp only [Debugger.running_told]
  | fetch url headers => rfl
  | read body => rfl

/-- A run is stopped by nothing but what is asked for while a line is heard. -/
theorem stopRequested_next {m : Moment σ} (h : m.debugger.running = true) :
    (m.next env p).stopRequested = (m.debugger.stopRequested || m.stops env) := by
  unfold next stops
  cases m.action with
  | say message =>
    have htold := Debugger.stopRequested_told env message h
    dsimp only
    split
    · next hanother =>
      rw [Debugger.stopRequested_told env _ (by rw [Debugger.running_told, h]), htold, hanother,
        Bool.true_and, Bool.or_assoc]
    · next hanother =>
      rw [Bool.not_eq_true] at hanother
      rw [htold, hanother, Bool.false_and, Bool.or_false]
  | fetch url headers => simp
  | read body => simp

/-- A moment makes at most the one fetch that it is about. -/
theorem fetches_next (m : Moment σ) :
    (m.next env p).session.fetches = m.debugger.session.fetches ++ (m.call? env p).toList := by
  unfold next call?
  cases m.action with
  | say message =>
    have htold : ∀ (d : Debugger σ) text, (d.told env text).session.fetches = d.session.fetches :=
      fun d text => Debugger.fetches_tell env _ d
    dsimp only
    split <;> simp only [htold, Option.toList_none, List.append_nil]
  | fetch url headers =>
    simp only [Option.toList_some]
    exact Fetching.fetches_fetch env.network p url headers _
  | read body =>
    simp only [Option.toList_none, List.append_nil]
    exact (Fetching.routine_receive body).fetches _

/-- The lines that are heard: that of the run, and that of the run which is started on it. -/
theorem heard_next (m : Moment σ) : (m.next env p).session.heard
    = m.debugger.session.heard ++
      ((m.line? env).toList ++ (m.refusal? env).toList.flatMap (·.lines)) := by
  have htold : ∀ (d : Debugger σ) message, (d.told env message).session.heard
      = d.session.heard ++ [d.lineOf env message] := by
    intro d message
    unfold Session.heard
    rw [Debugger.events_told, Event.traces_append]
    rfl
  unfold next line? refusal?
  cases m.action with
  | say message =>
    dsimp only
    split
    · rw [htold, htold, List.append_assoc]
      rfl
    · rw [htold]
      rfl
  | fetch url headers =>
    rw [Option.toList_none, List.nil_append, Option.toList_none, List.flatMap_nil, List.append_nil]
    exact Fetching.heard_fetch env.network p url headers _
  | read body =>
    rw [Option.toList_none, List.nil_append, Option.toList_none, List.flatMap_nil, List.append_nil]
    exact (Fetching.routine_receive body).heard _

end Next

end Moment

/-! ### From moment to moment -/

/-- The moments lead from one debugger to another. -/
inductive Passes (env : Surroundings σ) (p : FetchPolicy) :
    Debugger σ → List (Moment σ) → Debugger σ → Prop
  | done (d : Debugger σ) : Passes env p d [] d
  | step {m : Moment σ} {ms : List (Moment σ)} {d : Debugger σ}
      (h : Passes env p (m.next env p) ms d) :
      Passes env p m.debugger (m :: ms) d

namespace Passes

variable {env : Surroundings σ} {p : FetchPolicy} {d d' d'' : Debugger σ} {ms ms' : List (Moment σ)}

theorem single (m : Moment σ) : Passes env p m.debugger [m] (m.next env p) := .step (.done _)

theorem append (h : Passes env p d ms d') (h' : Passes env p d' ms' d'') :
    Passes env p d (ms ++ ms') d'' := by
  induction h with
  | done d => exact h'
  | step h ih => exact .step (ih h')

/-- Moments of which a part stands in front lead to the debugger that the rest starts with. -/
theorem split (h : Passes env p d (ms ++ ms') d') :
    ∃ e, Passes env p d ms e ∧ Passes env p e ms' d' := by
  induction ms generalizing d with
  | nil => exact ⟨d, .done d, h⟩
  | cons m ms ih =>
    cases h with
    | step h =>
      obtain ⟨e, hfront, hback⟩ := ih h
      exact ⟨e, .step hfront, hback⟩

/-- No moment starts or ends a run. -/
theorem running (h : Passes env p d ms d') :
    d'.running = d.running ∧ ∀ m ∈ ms, m.debugger.running = d.running := by
  induction h with
  | done d => exact ⟨rfl, by simp⟩
  | @step m ms d h ih =>
    rw [Moment.running_next] at ih
    exact ⟨ih.1, by simpa using ih.2⟩

theorem stopRequested (h : Passes env p d ms d') (hd : d.running = true) :
    d'.stopRequested = (d.stopRequested || ms.any (·.stops env)) := by
  induction h with
  | done d => simp
  | @step m ms d h ih =>
    rw [ih (by rw [Moment.running_next, hd]), Moment.stopRequested_next hd, List.any_cons,
      Bool.or_assoc]

/-- The fetches between two debuggers are those of the moments between them. -/
theorem fetches (h : Passes env p d ms d') :
    d'.session.fetches = d.session.fetches ++ ms.filterMap (·.call? env p) := by
  induction h with
  | done d => simp
  | @step m ms d h ih =>
    rw [ih, Moment.fetches_next, List.append_assoc]
    cases hm : m.call? env p with
    | none => rw [List.filterMap_cons_none hm]; rfl
    | some c => rw [List.filterMap_cons_some hm]; rfl

/-- Where no other run is started, what is heard are the lines of the run. -/
theorem heard (h : Passes env p d ms d') (halone : ms.filterMap (·.refusal? env) = []) :
    d'.session.heard = d.session.heard ++ ms.filterMap (·.line? env) := by
  induction h with
  | done d => exact (List.append_nil _).symm
  | @step m ms d h ih =>
    cases hrefusal : m.refusal? env with
    | some report =>
      rw [List.filterMap_cons_some hrefusal] at halone
      cases halone
    | none =>
      rw [List.filterMap_cons_none hrefusal] at halone
      rw [ih halone, Moment.heard_next, hrefusal, List.append_assoc]
      cases hline : m.line? env with
      | none => rw [List.filterMap_cons_none hline]; rfl
      | some line => rw [List.filterMap_cons_some hline]; rfl

end Passes

/-! ### What steps of a run do -/

/-- By these moments a run has become another; what has been found is not looked at. -/
structure Run.Becomes (env : Surroundings σ) (p : FetchPolicy) (r : Run σ) (ms : List (Moment σ))
    (r' : Run σ) : Prop where
  passes : Passes env p r.debugger ms r'.debugger
  lines : r'.lines = r.lines ++ ms.filterMap (·.line? env)
  refusals : r'.refusals = r.refusals ++ ms.filterMap (·.refusal? env)

theorem Run.becomes_self (env : Surroundings σ) (p : FetchPolicy) (r : Run σ) (f : Findings) :
    Run.Becomes env p r [] { r with findings := f } :=
  ⟨.done _, by simp, by simp⟩

theorem Run.becomes_log (env : Surroundings σ) (p : FetchPolicy) (message : String) (r : Run σ) :
    Run.Becomes env p r [⟨r.debugger, .say message⟩] (r.log env message) := by
  have hnext : Passes env p r.debugger [⟨r.debugger, .say message⟩] _ :=
    .single ⟨r.debugger, .say message⟩
  unfold Moment.next at hnext
  unfold Run.log
  dsimp only at hnext ⊢
  by_cases hanother : (r.debugger.wishOn env message).another = true
  · have hwish :
      (r.debugger.tell env (Trace.stamped (env.stamp r.debugger.session.network) message)).1.another
        = true := hanother
    rw [if_pos hanother] at hnext
    rw [if_pos hwish]
    exact ⟨hnext, rfl, by simp [Moment.refusal?, hanother]; rfl⟩
  · have hwish : ¬ (r.debugger.tell env
      (Trace.stamped (env.stamp r.debugger.session.network) message)).1.another = true := hanother
    rw [if_neg hanother] at hnext
    rw [if_neg hwish]
    exact ⟨hnext, rfl, by simp [Moment.refusal?, hanother]⟩

theorem Run.Becomes.trans {env : Surroundings σ} {p : FetchPolicy} {r r' r'' : Run σ}
    {ms ms' : List (Moment σ)} (h : r.Becomes env p ms r') (h' : r'.Becomes env p ms' r'') :
    r.Becomes env p (ms ++ ms') r'' where
  passes := h.passes.append h'.passes
  lines := by rw [h'.lines, h.lines, List.filterMap_append, List.append_assoc]
  refusals := by rw [h'.refusals, h.refusals, List.filterMap_append, List.append_assoc]

namespace Running

/-- What steps may come to: from a debugger, the moments that they take, and their result. -/
abbrev Telling (σ α : Type) := Debugger σ → List (Moment σ) → Except Halt α → Prop

def Tells (env : Surroundings σ) (p : FetchPolicy) (work : Running σ α) (Φ : Telling σ α) : Prop :=
  ∀ r : Run σ, ∃ ms, r.Becomes env p ms (work r).2 ∧ Φ r.debugger ms (work r).1

section Rules

variable {env : Surroundings σ} {p : FetchPolicy}

theorem Tells.mono {work : Running σ α} {Φ Ψ : Telling σ α} (h : Tells env p work Φ)
    (hΦ : ∀ d ms result, Φ d ms result → Ψ d ms result) : Tells env p work Ψ := by
  intro r
  obtain ⟨ms, hr, hpost⟩ := h r
  exact ⟨ms, hr, hΦ _ _ _ hpost⟩

theorem tells_pure {a : α} {Φ : Telling σ α} (h : ∀ d, Φ d [] (.ok a)) :
    Tells env p (pure a) Φ :=
  fun r => ⟨[], r.becomes_self env p r.findings, h _⟩

theorem tells_throw {e : Halt} {Φ : Telling σ α} (h : ∀ d, Φ d [] (.error e)) :
    Tells env p (throw e : Running σ α) Φ :=
  fun r => ⟨[], r.becomes_self env p r.findings, h _⟩

/-- The moments of the second part, `k`, follow those of the first. -/
theorem tells_bind {x : Running σ α} {k : α → Running σ β} {Ψ : Telling σ β}
    (h : Tells env p x fun d ms result => match result with
      | .ok a => Tells env p (k a) fun _ ms' => Ψ d (ms ++ ms')
      | .error e => Ψ d ms (.error e)) : Tells env p (x >>= k) Ψ := by
  intro r
  obtain ⟨ms, hr, hpost⟩ := h r
  rw [bind_run]
  rcases hrun : x r with ⟨_ | a, r'⟩
  · rw [hrun] at hr hpost
    exact ⟨ms, hr, hpost⟩
  · rw [hrun] at hr hpost
    obtain ⟨ms', hr', hpost'⟩ := hpost r'
    exact ⟨ms ++ ms', hr.trans hr', hpost'⟩

theorem tells_log {message : String} {Φ : Telling σ Unit}
    (h : ∀ d, Φ d [⟨d, .say message⟩] (.ok ())) :
    Tells env p (log env message) Φ :=
  fun r => ⟨_, r.becomes_log env p message, h _⟩

theorem tells_ofResult {x : Except Fault α} {Φ : Telling σ α}
    (h : ∀ d, Φ d [] (x.mapError .fault)) :
    Tells env p (ofResult x) Φ := by
  cases x with
  | ok a => exact tells_pure h
  | error e => exact tells_throw h

/-- What needs no network takes no moment, so that what follows starts from the same debugger. -/
theorem tells_ofResult_then {x : Except Fault α} {k : α → Running σ β} {Φ : Telling σ β}
    (hfail : ∀ d e, x = .error e → Φ d [] (.error (.fault e)))
    (hk : ∀ a, x = .ok a → Tells env p (k a) Φ) : Tells env p (ofResult x >>= k) Φ := by
  cases x with
  | ok a => exact hk a rfl
  | error e => exact tells_throw fun d => hfail d e rfl

theorem tells_found_then {g : Findings → Findings} {k : Unit → Running σ β} {Φ : Telling σ β}
    (h : Tells env p (k ()) Φ) : Tells env p (found g >>= k) Φ := by
  intro r
  obtain ⟨ms, hr, hpost⟩ := h { r with findings := g r.findings }
  exact ⟨ms, ⟨hr.passes, hr.lines, hr.refusals⟩, hpost⟩

theorem ofFetching_run (work : Fetching σ α) (r : Run σ) :
    ofFetching work r = ((work r.debugger.session).1.mapError .fault,
      { r with debugger := { r.debugger with session := (work r.debugger.session).2 } }) := rfl

/-- Work on the network takes one moment, in which nothing is said. -/
theorem tells_ofFetching {work : Fetching σ α} (action : Action) {Φ : Telling σ α}
    (hnext : ∀ d, (Moment.mk d action).next env p = { d with session := (work d.session).2 })
    (hline : ∀ d, (Moment.mk d action).line? env = none)
    (hrefusal : ∀ d, (Moment.mk d action).refusal? env = none)
    (h : ∀ d, Φ d [⟨d, action⟩] ((work d.session).1.mapError .fault)) : Tells env p
      (ofFetching work) Φ := by
  intro r
  rw [ofFetching_run]
  refine ⟨[⟨r.debugger, action⟩], ⟨?_, ?_, ?_⟩, h _⟩
  · have hsingle : Passes env p r.debugger [⟨r.debugger, action⟩] _ := .single ⟨r.debugger, action⟩
    rwa [hnext] at hsingle
  · simp [hline]
  · simp [hrefusal]

theorem tells_fetch {url : String} {headers : List (String × String)} {Φ : Telling σ Reply}
    (h : ∀ d, Φ d [⟨d, .fetch url headers⟩]
      ((Fetching.fetch env.network p url headers d.session).1.mapError .fault)) :
    Tells env p (ofFetching (Fetching.fetch env.network p url headers)) Φ :=
  tells_ofFetching (.fetch url headers) (fun _ => rfl) (fun _ => rfl) (fun _ => rfl) h

theorem tells_receive {body : Body} {Φ : Telling σ Page}
    (h : ∀ d, Φ d [⟨d, .read body⟩] ((Page.receive body d.session).1.mapError .fault)) :
    Tells env p (ofFetching (Page.receive body)) Φ :=
  tells_ofFetching (.read body) (fun _ => rfl) (fun _ => rfl) (fun _ => rfl) h

/-- A boundary lets those pass that are not to stop. -/
theorem tells_boundary_then {k : Unit → Running σ β} {Φ : Telling σ β}
    (hstop : ∀ d, Φ d [⟨d, .say "⏹ Stop requested; ending run"⟩] (.error (.ended .stopped)))
    (hk : Tells env p (k ()) fun d ms result => d.stopRequested = false → Φ d ms result) :
    Tells env p (boundary env >>= k) Φ := by
  intro r
  rw [bind_run]
  by_cases h : r.debugger.stopRequested = true
  · rw [boundary_of_stopRequested env h]
    exact ⟨_, r.becomes_log env p _, hstop _⟩
  · rw [boundary_of_not_stopRequested env h]
    obtain ⟨ms, hr, hpost⟩ := hk r
    exact ⟨ms, hr, hpost (Bool.eq_false_iff.mpr h)⟩

/-- A stage says in two more lines that it failed. -/
theorem tells_stage {which : Stage} {work : Running σ α} {Φ : Telling σ α}
    (h : Tells env p work fun d ms result => Φ d ms result ∧ ∀ e, result = .error (.fault e) →
      e.endsStage = true →
        ∀ d₁ d₂, Φ d (ms ++ [⟨d₁, .say ("✗ " ++ which.name ++ " stage failed: " ++ e.text)⟩,
        ⟨d₂, .say "✗ Run aborted"⟩]) (.error (.ended (.aborted which)))) :
    Tells env p (stage env which work) Φ := by
  intro r
  obtain ⟨ms, hr, hpost, hfail⟩ := h r
  unfold stage
  rcases hrun : work r with ⟨(ending | e) | a, r'⟩
  · rw [hrun] at hr hpost
    exact ⟨ms, hr, hpost⟩
  · rw [hrun] at hr hpost hfail
    by_cases he : e.endsStage = true
    · simp only [he, if_true]
      exact ⟨_, hr.trans ((r'.becomes_log env p _).trans (Run.becomes_log env p _ _)),
        hfail e rfl he _ _⟩
    · simp only [he]
      exact ⟨ms, hr, hpost⟩
  · rw [hrun] at hr hpost
    exact ⟨ms, hr, hpost⟩

end Rules

end Running

end Gleaner
