/-
  Gleaner/Proofs/Fetch/Log.lean
  =============================
  **The log of fetches.**  A session notes every fetch with what came of it.  Requests,
  repetitions and redirects leave that log alone, and the lines of traces as well
  (`Routine`); a fetch adds one entry, the fetch itself (`fetches_fetch`).
-/
import Gleaner.Fetch.Retrieve
import Gleaner.Page.Receive

namespace Gleaner

/-! ### Steps that may fail -/

section Steps

variable {α β ε τ : Type}

theorem bind_run (x : ExceptT ε (StateM τ) α) (k : α → ExceptT ε (StateM τ) β) (s : τ) :
    (x >>= k) s = match x s with
      | (.ok a, s') => k a s'
      | (.error e, s') => (.error e, s') := by
  change (match x s with | (r, s') => (ExceptT.bindCont k r) s') = _
  rcases x s with ⟨_ | _, _⟩ <;> rfl

@[simp] theorem pure_run (a : α) (s : τ) : (pure a : ExceptT ε (StateM τ) α) s = (.ok a, s) := rfl

@[simp] theorem throw_run (e : ε) (s : τ) :
    (throw e : ExceptT ε (StateM τ) α) s = (.error e, s) := rfl

end Steps

/-! ### The fetches and the lines among events -/

namespace Event

@[simp] theorem fetches_append (xs ys : List Event) :
    fetches (xs ++ ys) = fetches xs ++ fetches ys :=
  List.filterMap_append

@[simp] theorem traces_append (xs ys : List Event) : traces (xs ++ ys) = traces xs ++ traces ys :=
  List.filterMap_append

/-- The event is neither the end of a fetch nor a line of a trace. -/
def isRoutine : Event → Bool
  | .fetched _ => false
  | .traced _ => false
  | _ => true

theorem fetches_of_isRoutine {events : List Event} (h : ∀ e ∈ events, e.isRoutine = true) :
    fetches events = [] := by
  refine List.filterMap_eq_nil_iff.mpr fun e he => ?_
  cases e with
  | fetched c => cases h _ he
  | _ => rfl

theorem traces_of_isRoutine {events : List Event} (h : ∀ e ∈ events, e.isRoutine = true) :
    traces events = [] := by
  refine List.filterMap_eq_nil_iff.mpr fun e he => ?_
  cases e with
  | traced line => cases h _ he
  | _ => rfl

end Event

namespace Session

variable {σ : Type}

def fetches (s : Session σ) : List FetchCall := Event.fetches s.events

def heard (s : Session σ) : List String := Event.traces s.events

theorem fetches_note (s : Session σ) (e : Event) :
    (s.note e).fetches = s.fetches ++ Event.fetches [e] :=
  Event.fetches_append s.events [e]

theorem heard_note (s : Session σ) (e : Event) : (s.note e).heard = s.heard ++ Event.traces [e] :=
  Event.traces_append s.events [e]

end Session

namespace Fetching

variable {σ α β : Type}

/-- Work in which no fetch comes to its end and no line is traced. -/
def Routine (work : Fetching σ α) : Prop :=
  ∀ s, ∃ events, (work s).2.events = s.events ++ events ∧ ∀ e ∈ events, e.isRoutine = true

theorem Routine.fetches {work : Fetching σ α} (h : Routine work) (s : Session σ) :
    (work s).2.fetches = s.fetches := by
  obtain ⟨events, hevents, hroutine⟩ := h s
  unfold Session.fetches
  rw [hevents, Event.fetches_append, Event.fetches_of_isRoutine hroutine, List.append_nil]

theorem Routine.heard {work : Fetching σ α} (h : Routine work) (s : Session σ) :
    (work s).2.heard = s.heard := by
  obtain ⟨events, hevents, hroutine⟩ := h s
  unfold Session.heard
  rw [hevents, Event.traces_append, Event.traces_of_isRoutine hroutine, List.append_nil]

theorem Routine.pure (a : α) : Routine (pure a : Fetching σ α) :=
  fun s => ⟨[], (List.append_nil s.events).symm, by simp⟩

theorem Routine.throw (f : Fault) : Routine (throw f : Fetching σ α) :=
  fun s => ⟨[], (List.append_nil s.events).symm, by simp⟩

theorem Routine.bind {x : Fetching σ α} {k : α → Fetching σ β} (hx : Routine x)
    (hk : ∀ a, Routine (k a)) : Routine (x >>= k) := by
  intro s
  obtain ⟨events, hevents, hroutine⟩ := hx s
  rw [bind_run]
  rcases hr : x s with ⟨f | a, s'⟩
  · rw [hr] at hevents
    exact ⟨events, hevents, hroutine⟩
  · rw [hr] at hevents
    obtain ⟨more, hmore, hroutine'⟩ := hk a s'
    refine ⟨events ++ more, by rw [hmore, hevents, List.append_assoc], ?_⟩
    intro e he
    rcases List.mem_append.mp he with he | he
    · exact hroutine e he
    · exact hroutine' e he

theorem Routine.happen {e : Event} (h : e.isRoutine = true) :
    Routine (happen e : Fetching σ Unit) :=
  fun _ => ⟨[e], rfl, by simpa using h⟩

theorem Routine.ask (net : Network σ) (r : Request) : Routine (ask net r) :=
  fun _ => ⟨[.asked r], rfl, by simp [Event.isRoutine]⟩

theorem Routine.ofResult (x : Except Fault α) : Routine (ofResult x : Fetching σ α) := by
  cases x with
  | ok a => exact Routine.pure a
  | error f => exact Routine.throw f

/-! ### Fetching -/

theorem routine_conclude {r : Request} {failed : String → String → Fetching σ Reply}
    (h : ∀ label m, Routine (failed label m)) (outcome : Outcome) :
    Routine (conclude r failed outcome) := by
  cases outcome with
  | reply q => exact Routine.pure q
  | unsupported m => exact Routine.throw _
  | malformed m => exact Routine.throw _
  | fault f => exact Routine.throw f
  | failed label m => exact h label m

theorem routine_attempts (net : Network σ) (p : FetchPolicy) (r : Request) :
    ∀ left attempt, Routine (attempts net p r left attempt) := by
  intro left
  induction left with
  | zero =>
    intro attempt
    refine (Routine.ask net r).bind (routine_conclude fun label m => ?_)
    exact (Routine.happen rfl).bind fun _ => Routine.throw _
  | succ left ih =>
    intro attempt
    refine (Routine.ask net r).bind (routine_conclude fun label m => ?_)
    exact (Routine.happen rfl).bind fun _ => (Routine.happen rfl).bind fun _ => ih (attempt + 1)

theorem routine_follow (net : Network σ) (p : FetchPolicy) (headers : List (String × String))
    (start : String) : ∀ hops current, Routine (follow net p headers start hops current) := by
  intro hops
  induction hops with
  | zero => intro current; exact Routine.throw _
  | succ hops ih =>
    intro current
    unfold follow
    refine (routine_attempts net p _ _ 1).bind fun reply => ?_
    cases redirection? reply with
    | none => exact Routine.pure reply
    | some location => exact (Routine.ofResult _).bind fun next => ih next

theorem routine_retrieve (net : Network σ) (p : FetchPolicy) (url : String)
    (extra : List (String × String)) : Routine (retrieve net p url extra) := by
  unfold retrieve
  by_cases h : Text.trim url = ""
  · simpa only [h, if_true] using Routine.throw _
  · simpa only [h, if_false] using routine_follow net p _ _ _ _

/-- A fetch leaves one entry in the log, whatever came of it. -/
theorem fetches_fetch (net : Network σ) (p : FetchPolicy) (url : String)
    (extra : List (String × String)) (s : Session σ) :
    (fetch net p url extra s).2.fetches
      = s.fetches ++ [⟨url, extra, (fetch net p url extra s).1⟩] := by
  have h := (routine_retrieve net p url extra).fetches s
  unfold fetch noted
  rcases hr : retrieve net p url extra s with ⟨result, s'⟩
  rw [hr] at h
  exact (s'.fetches_note _).trans (by rw [h]; rfl)

/-- Who listens to the trace hears nothing of a fetch. -/
theorem heard_fetch (net : Network σ) (p : FetchPolicy) (url : String)
    (extra : List (String × String)) (s : Session σ) :
    (fetch net p url extra s).2.heard = s.heard := by
  have h := (routine_retrieve net p url extra).heard s
  unfold fetch noted
  rcases hr : retrieve net p url extra s with ⟨result, s'⟩
  rw [hr] at h
  exact (s'.heard_note _).trans (by rw [h]; exact List.append_nil _)

theorem fetch_result (net : Network σ) (p : FetchPolicy) (url : String)
    (extra : List (String × String)) (s : Session σ) :
    (fetch net p url extra s).1 = (retrieve net p url extra s).1 := by
  unfold fetch noted
  rcases retrieve net p url extra s with ⟨result, s'⟩
  rfl

theorem routine_receive (body : Body) : Routine (Page.receive body : Fetching σ Page) := by
  unfold Page.receive
  by_cases h : Page.isLossy body = true
  · rw [if_pos h]
    exact (Routine.happen rfl).bind fun _ => Routine.ofResult _
  · rw [if_neg h]
    exact Routine.ofResult _

/-- A warning on the way does not change what is read. -/
theorem receive_result (body : Body) (s : Session σ) :
    (Page.receive body s).1 = Page.read body := by
  unfold Page.receive
  by_cases h : Page.isLossy body = true
  · rw [if_pos h]
    cases Page.read body <;> rfl
  · rw [if_neg h]
    cases Page.read body <;> rfl

/-! ### What work adds to the log -/

/-- The work adds to the log of fetches and comes to a result, both as `Φ` allows. -/
def Logs (work : Fetching σ α) (Φ : List FetchCall → Except Fault α → Prop) : Prop :=
  ∀ s, ∃ calls, (work s).2.fetches = s.fetches ++ calls ∧ Φ calls (work s).1

theorem Logs.mono {work : Fetching σ α} {Φ Ψ : List FetchCall → Except Fault α → Prop}
    (h : Logs work Φ) (hΦ : ∀ calls x, Φ calls x → Ψ calls x) : Logs work Ψ := by
  intro s
  obtain ⟨calls, hcalls, hpost⟩ := h s
  exact ⟨calls, hcalls, hΦ _ _ hpost⟩

theorem Routine.logs {work : Fetching σ α} {Φ : List FetchCall → Except Fault α → Prop}
    (h : Routine work) (hΦ : ∀ s, Φ [] (work s).1) : Logs work Φ :=
  fun s => ⟨[], by rw [h.fetches s, List.append_nil], hΦ s⟩

/-- The fetches of the second part are logged after those of the first. -/
theorem logs_bind {x : Fetching σ α} {k : α → Fetching σ β}
    {Ψ : List FetchCall → Except Fault β → Prop} (h : Logs x fun calls result => match result with
      | .ok a => Logs (k a) fun more y => Ψ (calls ++ more) y
      | .error e => Ψ calls (.error e)) : Logs (x >>= k) Ψ := by
  intro s
  obtain ⟨calls, hcalls, hpost⟩ := h s
  rw [bind_run]
  rcases hrun : x s with ⟨_ | a, s'⟩
  · rw [hrun] at hcalls hpost
    exact ⟨calls, hcalls, hpost⟩
  · rw [hrun] at hcalls hpost
    obtain ⟨more, hmore, hboth⟩ := hpost s'
    exact ⟨calls ++ more, by rw [hmore, hcalls, List.append_assoc], hboth⟩

theorem logs_fetch (net : Network σ) (p : FetchPolicy) (url : String)
    (extra : List (String × String)) :
    Logs (fetch net p url extra) fun calls x =>
      calls = [⟨url, extra, x⟩] ∧ ∃ s s', fetch net p url extra s = (x, s') := by
  intro s
  have hlog := fetches_fetch net p url extra s
  generalize hrun : fetch net p url extra s = run at hlog ⊢
  exact ⟨_, hlog, rfl, s, run.2, hrun⟩

end Fetching

end Gleaner
