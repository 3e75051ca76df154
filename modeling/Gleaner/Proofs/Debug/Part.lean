/-
  Gleaner/Proofs/Debug/Part.lean
  ==============================
  **The parts of a run.**  The moments of a run are those before its first stage and those
  of one stage after another.  A stage starts with a blank line, after which it says its
  title; it makes one fetch at most, which it announces (`Tale`).  But for the search it
  starts at a boundary, which no run passes that is to stop (`Part.IsProper`).  So every run
  goes through the stages in their order, as far as it comes (`tells_stages`).

  What holds of every run is read off how it unfolds (`Unfolds`), by induction on that.
-/
import Gleaner.Proofs.Debug.Message
import Gleaner.Proofs.Debug.Moment
import Gleaner.Proofs.Fault

namespace Gleaner

variable {σ α β : Type}

/-! ### The parts of a run -/

def Stage.ahead (keyword : String) : List Stage :=
  if Url.isAbsolute keyword.toList then [.detail, .toc, .content]
  else [.search, .detail, .toc, .content]

/-- Moments in which no stage introduces itself and no more than `n` fetches are made. -/
structure Calm (n : Nat) (ms : List (Moment σ)) : Prop where
  untitled : ∀ m ∈ ms, ∀ message, m.action = .say message → IsUntitled message
  fetches : ms.countP (·.isFetch) ≤ n

/-- A stage of a run: the debugger with which it starts, by a blank line, the debugger with
    which it says its title, and the moments after that. -/
structure Part (σ : Type) where
  stage : Stage
  start : Debugger σ
  titled : Debugger σ
  rest : List (Moment σ)

def Part.moments (q : Part σ) : List (Moment σ) :=
  ⟨q.start, .say ""⟩ :: ⟨q.titled, .say q.stage.title⟩ :: q.rest

/-- The stage fetches one address at most, and starts at a boundary that it may pass. -/
structure Part.IsProper (q : Part σ) : Prop where
  calm : Calm 1 q.rest
  passed : q.stage ≠ .search → q.start.stopRequested = false

theorem Calm.nil {n : Nat} : Calm n ([] : List (Moment σ)) := ⟨by simp, by simp⟩

theorem Calm.mono {m n : Nat} {ms : List (Moment σ)} (h : Calm m ms) (hmn : m ≤ n) : Calm n ms :=
  ⟨h.untitled, Nat.le_trans h.fetches hmn⟩

theorem Calm.append {m n : Nat} {ms ms' : List (Moment σ)} (h : Calm m ms) (h' : Calm n ms') :
    Calm (m + n) (ms ++ ms') where
  untitled := by
    intro q hq
    rcases List.mem_append.mp hq with hq | hq
    · exact h.untitled q hq
    · exact h'.untitled q hq
  fetches := by
    rw [List.countP_append]
    exact Nat.add_le_add h.fetches h'.fetches

theorem calm_say {message : String} (h : IsUntitled message) (n : Nat) (d : Debugger σ) :
    Calm n [⟨d, .say message⟩] := by
  refine ⟨?_, Nat.zero_le n⟩
  rintro m hm text heq
  rw [List.mem_singleton.mp hm] at heq
  cases heq
  exact h

/-- Moments before a first stage, and then stages that are the first ones of a list. -/
def GoesThrough (stages : List Stage) (ms : List (Moment σ)) : Prop :=
  ∃ (opening : List (Moment σ)) (parts : List (Part σ)), ms = opening ++ parts.flatMap Part.moments
    ∧ Calm 0 opening
    ∧ parts.map Part.stage <+: stages ∧ ∀ q ∈ parts, q.IsProper

theorem Calm.goesThrough {ms : List (Moment σ)} (h : Calm 0 ms) (stages : List Stage) :
    GoesThrough stages ms :=
  ⟨ms, [], by simp, h, List.nil_prefix, by simp⟩

theorem GoesThrough.prepend {stages : List Stage} {ms ms' : List (Moment σ)} (h : Calm 0 ms)
    (h' : GoesThrough stages ms') : GoesThrough stages (ms ++ ms') := by
  obtain ⟨opening, parts, rfl, hopening, hstages, hparts⟩ := h'
  exact ⟨ms ++ opening, parts, by rw [List.append_assoc], h.append hopening, hstages, hparts⟩

/-- What comes before the next stage belongs to the part of the stage before. -/
theorem GoesThrough.part {stages : List Stage} {ms : List (Moment σ)} {q : Part σ} (hq : q.IsProper)
    (h : GoesThrough stages ms) : GoesThrough (q.stage :: stages) (q.moments ++ ms) := by
  obtain ⟨opening, parts, rfl, hopening, hstages, hparts⟩ := h
  refine ⟨[], { q with rest := q.rest ++ opening } :: parts, ?_, .nil, ?_, ?_⟩
  · simp [Part.moments]
  · simpa using hstages
  · intro q' hq'
    rcases List.mem_cons.mp hq' with rfl | hq'
    · exact ⟨hq.calm.append hopening, hq.passed⟩
    · exact hparts q' hq'

/-! ### How a run unfolds -/

/-- By the way: something plain is said, or a body is read. -/
inductive Action.IsAside : Action → Prop
  | say {message : String} (h : StartsPlain message) : IsAside (.say message)
  | read (body : Body) : IsAside (.read body)

def Asides (ms : List (Moment σ)) : Prop := ∀ m ∈ ms, m.action.IsAside

theorem Asides.append {ms ms' : List (Moment σ)} (h : Asides ms) (h' : Asides ms') :
    Asides (ms ++ ms') :=
  fun m hm => (List.mem_append.mp hm).elim (h m) (h' m)

theorem Asides.calm {ms : List (Moment σ)} (h : Asides ms) : Calm 0 ms where
  untitled := by
    intro m hm message haction
    have hplain := h m hm
    rw [haction] at hplain
    cases hplain with
    | say hmessage => exact hmessage.isUntitled
  fetches := by
    rw [Nat.le_zero, List.countP_eq_zero]
    intro m hm hfetch
    have hplain := h m hm
    unfold Moment.isFetch at hfetch
    split at hfetch
    · next haction =>
      rw [haction] at hplain
      cases hplain
    · cases hfetch

section Unfolding

variable (env : Surroundings σ) (p : FetchPolicy)

/-- The moments of a stage after its title, and the fault with which it fails, if it does.  It
    makes one fetch at most. -/
inductive Tale : List (Moment σ) → Option Fault → Prop
  | quiet {ms : List (Moment σ)} {fault : Option Fault} (h : Asides ms) : Tale ms fault
  | answered {front back : List (Moment σ)} {d d₁ d₂ : Debugger σ} {url : String}
      {headers : List (String × String)} {reply : Reply} {fault : Option Fault}
      (hfront : Asides front)
      (hfetch : (Fetching.fetch env.network p url headers d₁.session).1 = .ok reply)
      (hback : Asides back) :
      Tale (front ++ ⟨d, .say (announcement ++ url)⟩ :: ⟨d₁, .fetch url headers⟩
        :: ⟨d₂, .say (Debug.statusLine reply)⟩ :: back) fault
  | unanswered {front : List (Moment σ)} {d d₁ : Debugger σ} {url : String}
      {headers : List (String × String)} {e : Fault} (hfront : Asides front)
      (hfetch : (Fetching.fetch env.network p url headers d₁.session).1 = .error e) :
      Tale (front ++ [⟨d, .say (announcement ++ url)⟩, ⟨d₁, .fetch url headers⟩]) (some e)
  /-- No stage accounts for a fault that comes before the fetch. -/
  | lost {front : List (Moment σ)} {d : Debugger σ} {url : String} {e : Fault}
      (hfront : Asides front)
      (he : e.endsStage = false) : Tale (front ++ [⟨d, .say (announcement ++ url)⟩]) (some e)

/-- How a run goes on that has some stages ahead, and what it comes to. -/
inductive Unfolds : List Stage → List (Moment σ) → Except Halt Unit → Prop
  | completed {stages : List Stage} {d d₁ : Debugger σ} :
      Unfolds stages [⟨d, .say ""⟩, ⟨d₁, .say Ending.completed.closing⟩] (.ok ())
  | stopped {stages : List Stage} {d : Debugger σ} :
      Unfolds stages [⟨d, .say Ending.stopped.closing⟩] (.error (.ended .stopped))
  | aborted {stages : List Stage} {which : Stage} {d d₁ : Debugger σ} {message : String}
      (h : StartsPlain message) :
      Unfolds stages [⟨d, .say message⟩, ⟨d₁, .say (Ending.aborted which).closing⟩]
        (.error (.ended (.aborted which)))
  | fault {stages : List Stage} {e : Fault} : Unfolds stages [] (.error (.fault e))
  | remark {stages : List Stage} {d : Debugger σ} {message : String} {ms : List (Moment σ)}
      {result : Except Halt Unit} (h : StartsPlain message) (hms : Unfolds stages ms result) :
      Unfolds stages (⟨d, .say message⟩ :: ms) result
  | stage {stages : List Stage} {q : Part σ} {ms : List (Moment σ)} {result : Except Halt Unit}
      (hpassed : q.stage ≠ .search → q.start.stopRequested = false) (htale : Tale env p q.rest none)
      (hms : Unfolds stages ms result) : Unfolds (q.stage :: stages) (q.moments ++ ms) result
  | failed {stages : List Stage} {q : Part σ} {e : Fault} {d d₁ : Debugger σ}
      (hpassed : q.stage ≠ .search → q.start.stopRequested = false)
      (htale : Tale env p q.rest (some e)) (he : e.endsStage = true) :
      Unfolds (q.stage :: stages)
        (q.moments ++ [⟨d, .say (q.stage.failure e)⟩, ⟨d₁, .say (Ending.aborted q.stage).closing⟩])
        (.error (.ended (.aborted q.stage)))
  | derailed {stages : List Stage} {q : Part σ} {e : Fault}
      (hpassed : q.stage ≠ .search → q.start.stopRequested = false)
      (htale : Tale env p q.rest (some e)) :
      Unfolds (q.stage :: stages) q.moments (.error (.fault e))

end Unfolding

section Readings

variable {env : Surroundings σ} {p : FetchPolicy} {ms ms' : List (Moment σ)} {fault : Option Fault}

/-- A tale can start with what is done by the way. -/
theorem Tale.prepend (h : Asides ms) (h' : Tale env p ms' fault) :
    Tale env p (ms ++ ms') fault := by
  cases h' with
  | quiet h' => exact .quiet (h.append h')
  | answered hfront hfetch hback =>
    rw [← List.append_assoc]
    exact .answered (h.append hfront) hfetch hback
  | unanswered hfront hfetch =>
    rw [← List.append_assoc]
    exact .unanswered (h.append hfront) hfetch
  | lost hfront he =>
    rw [← List.append_assoc]
    exact .lost (h.append hfront) he

theorem Tale.append (h : Tale env p ms none) (h' : Asides ms') : Tale env p (ms ++ ms') fault := by
  cases h with
  | quiet h => exact .quiet (h.append h')
  | answered hfront hfetch hback =>
    rw [List.append_assoc]
    exact .answered hfront hfetch (hback.append h')

/-- The tale of a stage is calm: it has no title in it and makes one fetch at most. -/
theorem Tale.calm (h : Tale env p ms fault) : Calm 1 ms := by
  have hannounce : ∀ (d : Debugger σ) (url : String), Calm 0 [⟨d, .say (announcement ++ url)⟩] :=
    fun d url => calm_say (isUntitled_announcement url) 0 d
  have hfetch : ∀ (d : Debugger σ) (url : String) (headers : List (String × String)),
      Calm 1 [⟨d, .fetch url headers⟩] :=
    fun d url headers => ⟨by simp, by simp [Moment.isFetch]⟩
  cases h with
  | quiet h => exact h.calm.mono (Nat.zero_le 1)
  | @answered front back d d₁ d₂ url headers reply fault hfront _ hback =>
    have hstatus : Calm 0 [⟨d₂, .say (Debug.statusLine reply)⟩] :=
      calm_say (Debug.startsPlain_statusLine reply).isUntitled 0 d₂
    exact hfront.calm.append ((hannounce d url).append
      ((hfetch d₁ url headers).append (hstatus.append hback.calm)))
  | unanswered hfront _ => exact hfront.calm.append ((hannounce _ _).append (hfetch _ _ _))
  | lost hfront _ => exact (hfront.calm.append (hannounce _ _)).mono (Nat.zero_le 1)

/-- A run that unfolds goes through its stages in their order, by induction on them. -/
theorem Unfolds.goesThrough {stages : List Stage} {result : Except Halt Unit}
    (h : Unfolds env p stages ms result) : GoesThrough stages ms := by
  have hsay : ∀ {message : String}, StartsPlain message →
      ∀ d : Debugger σ, Calm 0 [⟨d, .say message⟩] :=
    fun hmessage d => calm_say hmessage.isUntitled 0 d
  induction h with
  | completed =>
      exact ((calm_say isUntitled_empty 0 _).append (hsay (startsPlain_closing _) _)).goesThrough _
  | stopped => exact (hsay (startsPlain_closing _) _).goesThrough _
  | aborted hmessage =>
      exact ((hsay hmessage _).append (hsay (startsPlain_closing _) _)).goesThrough _
  | fault => exact Calm.nil.goesThrough _
  | remark hmessage _ ih => exact ih.prepend (hsay hmessage _)
  | stage hpassed htale _ ih => exact ih.part ⟨htale.calm, hpassed⟩
  | @failed stages q e d d₁ hpassed htale _ =>
    have hend := (hsay (startsPlain_failure q.stage e) d).append
      (hsay (startsPlain_closing (.aborted q.stage)) d₁)
    exact (hend.goesThrough stages).part ⟨htale.calm, hpassed⟩
  | @derailed stages q e hpassed htale =>
    have hpart := (Calm.nil.goesThrough stages).part ⟨htale.calm, hpassed⟩
    rwa [List.append_nil] at hpart

end Readings

namespace Running

section Stages

variable {env : Surroundings σ} {p : FetchPolicy} {t : Task}

/-! #### By the way -/

/-- Steps that do everything by the way, and do not end the run. -/
def Dallies : Telling σ α :=
  fun _ ms result => Asides ms ∧ ∀ ending, result ≠ .error (.ended ending)

theorem dallies_nil {d : Debugger σ} {result : Except Halt α}
    (h : ∀ ending, result ≠ .error (.ended ending)) :
    Dallies d [] result :=
  ⟨fun _ hm => (List.not_mem_nil hm).elim, h⟩

theorem tells_dallies_bind {x : Running σ α} {k : α → Running σ β} (hx : Tells env p x Dallies)
    (hk : ∀ a, Tells env p (k a) Dallies) : Tells env p (x >>= k) Dallies := by
  refine tells_bind (hx.mono ?_)
  rintro d ms (e | a) ⟨hms, hresult⟩
  · refine ⟨hms, fun ending h => hresult ending ?_⟩
    cases h
    rfl
  · exact (hk a).mono fun _ ms' result h => ⟨hms.append h.1, h.2⟩

theorem tells_dallies_pure (a : α) : Tells env p (pure a) Dallies :=
  tells_pure fun _ => dallies_nil fun _ h => nomatch h

theorem tells_dallies_ofResult (x : Except Fault α) : Tells env p (ofResult x) Dallies := by
  refine tells_ofResult fun _ => dallies_nil ?_
  cases x <;> exact fun _ h => nomatch h

theorem tells_dallies_log {message : String} (h : StartsPlain message) :
    Tells env p (log env message) Dallies := by
  refine tells_log fun d => ⟨?_, fun _ h => nomatch h⟩
  intro m hm
  rw [List.mem_singleton.mp hm]
  exact .say h

theorem tells_dallies_logAll {messages : List String}
    (h : ∀ message ∈ messages, StartsPlain message) :
    Tells env p (logAll env messages) Dallies := by
  induction messages with
  | nil => exact tells_dallies_pure ()
  | cons message more ih =>
    have hmore : ∀ m ∈ more, StartsPlain m := fun m hm => h m (List.mem_cons_of_mem _ hm)
    exact tells_dallies_bind (tells_dallies_log (h message List.mem_cons_self)) fun _ => ih hmore

theorem tells_dallies_read (body : Body) :
    Tells env p (ofFetching (Page.receive body)) Dallies := by
  refine tells_receive fun d => ⟨?_, ?_⟩
  · intro m hm
    rw [List.mem_singleton.mp hm]
    exact .read body
  · cases (Page.receive body d.session).1 <;> exact fun _ h => nomatch h

theorem tells_dallies_shown {x : Except Fault α} {lines : α → List String} {k : α → Running σ β}
    (h : ∀ a, ∀ line ∈ lines a, StartsPlain line) (hk : ∀ a, Tells env p (k a) Dallies) :
    Tells env p (ofResult x >>= fun a => logAll env (lines a) >>= fun _ => k a) Dallies :=
  tells_dallies_bind (tells_dallies_ofResult x) fun a =>
    tells_dallies_bind (tells_dallies_logAll (h a)) fun _ => hk a

/-! #### With a fetch -/

def Recounts (env : Surroundings σ) (p : FetchPolicy) : Telling σ α := fun _ ms result =>
  match result with
  | .ok _ => Tale env p ms none
  | .error (.fault e) => Tale env p ms (some e)
  | .error (.ended _) => False

theorem Dallies.recounts {d : Debugger σ} {ms : List (Moment σ)} {result : Except Halt α}
    (h : Dallies d ms result) : Recounts env p d ms result := by
  rcases result with (ending | e) | a
  · exact h.2 ending rfl
  · exact .quiet h.1
  · exact .quiet h.1

/-- What is done by the way may come before the tale of a stage. -/
theorem tells_after {x : Running σ α} {k : α → Running σ β} (hx : Tells env p x Dallies)
    (hk : ∀ a, Tells env p (k a) (Recounts env p)) : Tells env p (x >>= k) (Recounts env p) := by
  refine tells_bind (hx.mono ?_)
  rintro d ms (e | a) hms
  · cases e with
    | ended ending => exact hms.2 ending rfl
    | fault e => exact .quiet hms.1
  · refine (hk a).mono ?_
    rintro d' ms' ((ending | e) | b) htale
    · exact htale
    · exact htale.prepend hms.1
    · exact htale.prepend hms.1

theorem tells_before {x : Running σ α} {k : α → Running σ β} (hx : Tells env p x (Recounts env p))
    (hk : ∀ a, Tells env p (k a) Dallies) : Tells env p (x >>= k) (Recounts env p) := by
  refine tells_bind (hx.mono ?_)
  rintro d ms ((ending | e) | a) htale
  · exact htale
  · exact htale
  · refine (hk a).mono ?_
    rintro d' ms' ((ending | e) | b) hms'
    · exact hms'.2 ending rfl
    · exact htale.append hms'.1
    · exact htale.append hms'.1

/-- Loading a page announces one fetch, makes it and tells what came of it. -/
theorem tells_load (url : String) :
    Tells env t.policy (load env t url) (Recounts env t.policy) := by
  have hpage : ∀ reply : Reply, Tells env t.policy (do
      if !reply.isOk then throw (.fault (.status "Request failed" (some url) reply.status))
      log env (Debug.bodyLine reply t.settings.previewChars)
      let page ← ofFetching (Page.receive (.bytes reply.body))
      log env (Debug.kindLine page.isData)
      return (reply, page)) Dallies := by
    intro reply
    have hread : Tells env t.policy (do
        log env (Debug.bodyLine reply t.settings.previewChars)
        let page ← ofFetching (Page.receive (.bytes reply.body))
        log env (Debug.kindLine page.isData)
        return (reply, page)) Dallies := by
      refine tells_dallies_bind (tells_dallies_log (.append (by decide) _)) fun _ => ?_
      refine tells_dallies_bind (tells_dallies_read _) fun page => ?_
      exact tells_dallies_bind (tells_dallies_log (.append (by decide) _)) fun _ =>
        tells_dallies_pure _
    cases reply.isOk with
    | false =>
      refine tells_dallies_bind (tells_throw fun _ => dallies_nil fun _ h => nomatch h) fun _ =>
        hread
    | true => exact hread
  have hnone : Asides ([] : List (Moment σ)) := fun _ hm => nomatch hm
  unfold load
  -- the announcement waits for what comes of the fetch
  refine tells_bind (tells_log fun d => ?_)
  refine tells_ofResult_then (fun d₁ e he => ?_) fun headers _ => ?_
  · obtain ⟨m, rfl⟩ := Source.requestHeaders_fault he
    exact Tale.lost hnone rfl
  · refine tells_bind (tells_fetch fun d₁ => ?_)
    cases hfetch : (Fetching.fetch env.network t.policy url headers d₁.session).1 with
    | error e => exact Tale.unanswered hnone hfetch
    | ok reply =>
      refine tells_bind (tells_log fun d₂ => (hpage reply).mono ?_)
      rintro d₃ ms ((ending | e) | b) hms
      · exact hms.2 ending rfl
      · exact Tale.answered hnone hfetch hms.1
      · exact Tale.answered hnone hfetch hms.1

/-! #### Stages -/

/-- The moments of a stage, from the debugger with which it starts; one that fails at once
    says nothing. -/
def Attempts (env : Surroundings σ) (p : FetchPolicy) (which : Stage) : Telling σ α :=
  fun d ms result =>
  (∃ q : Part σ, q.stage = which ∧ q.start = d ∧ q.moments = ms ∧ Recounts env p d q.rest result)
    ∨ ms = [] ∧ ∃ e, result = .error (.fault e)

/-- A stage that introduces itself and then tells its tale is attempted. -/
theorem tells_heading {which : Stage} {title : String} {k : Unit → Running σ α}
    (htitle : "📋 " ++ title = which.title) (hk : Tells env p (k ()) (Recounts env p)) :
    Tells env p (heading env title >>= k) (Attempts env p which) := by
  intro r
  let r₁ := r.log env ""
  let r₂ := r₁.log env which.title
  obtain ⟨ms, hr, hms⟩ := hk r₂
  have hrun : (heading env title >>= k) r = k () r₂ := by
    unfold heading
    rw [htitle]
    rfl
  rw [hrun]
  refine ⟨_, (r.becomes_log env p "").trans ((r₁.becomes_log env p which.title).trans hr), .inl ?_⟩
  exact ⟨⟨which, r.debugger, r₁.debugger, ms⟩, rfl, rfl, rfl, hms⟩

theorem tells_searchStage (keyword : String) :
    Tells env t.policy (searchStage env t keyword) (Attempts env t.policy .search) := by
  unfold searchStage
  refine tells_heading (by decide) ?_
  refine tells_after (tells_dallies_log (Debug.startsPlain_searchRulesLine _)) fun _ => ?_
  refine tells_after (tells_dallies_ofResult _) fun url => ?_
  refine tells_after (tells_dallies_log (.append (by decide) _)) fun _ => ?_
  refine tells_before (tells_load url) fun x => tells_dallies_shown ?_ fun _ => tells_dallies_pure _
  exact fun harvest => Debug.startsPlain_harvest (by decide) _ _ _ harvest

theorem tells_detailStage (url : String) :
    Tells env t.policy (detailStage env t url) (Attempts env t.policy .detail) := by
  unfold detailStage
  refine tells_heading (by decide) ?_
  refine tells_before (tells_load url) fun x => tells_dallies_shown ?_ fun _ => tells_dallies_pure _
  exact fun detail => Debug.startsPlain_detailLines detail

theorem tells_chaptersOn (page : Page) (url : String) :
    Tells env p (chaptersOn env t page >>= fun chapters => pure (chapters, url)) Dallies := by
  refine tells_dallies_bind (tells_dallies_shown ?_ fun _ => tells_dallies_pure _) fun _ =>
    tells_dallies_pure _
  exact fun harvest => Debug.startsPlain_harvest (by decide) _ _ _ harvest

theorem tells_tocStage (book : BookDetail) (reply : Reply) (page : Page) :
    Tells env t.policy (tocStage env t book reply page) (Attempts env t.policy .toc) := by
  unfold tocStage
  by_cases htoc : book.tocUrl = ""
  · rw [if_pos htoc]
    refine tells_heading (by decide) ?_
    refine tells_after (tells_dallies_log (.append (by decide) _)) fun _ => ?_
    refine tells_after (tells_dallies_log ((StartsPlain.append (by decide) _).append _)) fun _ => ?_
    exact (tells_chaptersOn page reply.url).mono fun _ _ _ h => h.recounts
  · rw [if_neg htoc]
    refine tells_ofResult_then (fun d e he => .inr ⟨rfl, _, rfl⟩) fun url hurl => ?_
    refine tells_heading (by decide) ?_
    exact tells_before (tells_load url) fun x => tells_chaptersOn x.2 x.1.url

theorem tells_contentStage (url : String) :
    Tells env t.policy (contentStage env t url) (Attempts env t.policy .content) := by
  unfold contentStage
  refine tells_heading (by decide) ?_
  refine tells_before (tells_load url) fun x => tells_dallies_shown ?_ fun _ => tells_dallies_pure _
  exact fun text => Debug.startsPlain_contentLines _ text

/-! #### From stage to stage -/

/-- A stage and what comes after it. -/
theorem tells_stage_then {which : Stage} {work : Running σ α} {k : α → Running σ Unit}
    (stages : List Stage) (hwork : Tells env p work (Attempts env p which))
    (hk : ∀ a, Tells env p (k a) fun _ => Unfolds env p stages) :
    Tells env p (stage env which work >>= k) fun d ms result =>
      (which ≠ .search → d.stopRequested = false) → Unfolds env p (which :: stages) ms result := by
  refine tells_bind (tells_stage (hwork.mono ?_))
  rintro d ms result (⟨q, rfl, rfl, rfl, hq⟩ | ⟨rfl, e, rfl⟩)
  · rcases result with (ending | e) | a
    · exact hq.elim
    · -- the fault escapes, unless it is one that a stage accounts for
      refine ⟨fun hpassed => .derailed hpassed hq, ?_⟩
      rintro _ ⟨⟩ he d₁ d₂ hpassed
      exact .failed hpassed hq he
    · refine ⟨(hk a).mono fun _ _ _ hms hpassed => .stage hpassed hq hms, ?_⟩
      rintro _ ⟨⟩
  · refine ⟨fun _ => .fault, ?_⟩
    rintro _ ⟨⟩ he d₁ d₂ -
    exact .aborted (startsPlain_failure which e)

theorem tells_abort (which : Stage) (k : α → Running σ Unit) (stages : List Stage) :
    Tells env p (abort env which >>= k) fun _ => Unfolds env p stages := by
  unfold abort
  simp only [bind_assoc]
  refine tells_bind (tells_log fun d => tells_bind
    (tells_log fun d₁ => tells_bind (tells_throw fun _ => ?_)))
  exact .aborted (startsPlain_unusable which)

/-- A boundary before the first of the stages that are left. -/
theorem tells_boundary_unfolds {k : Unit → Running σ Unit} {stages : List Stage}
    (hk : Tells env p (k ()) fun d ms result => d.stopRequested = false →
      Unfolds env p stages ms result) :
    Tells env p (boundary env >>= k) fun _ => Unfolds env p stages :=
  tells_boundary_then (fun _ => .stopped) hk

theorem tells_fromText (page first : String) :
    Tells env t.policy (fromText env t page first) fun _ => Unfolds env t.policy [.content] := by
  unfold fromText
  refine tells_boundary_unfolds (tells_ofResult_then (fun _ _ _ _ => .fault) fun url _ => ?_)
  refine (tells_stage_then [] (tells_contentStage url) fun text => ?_).mono fun d ms _ h hd =>
    h fun _ => hd
  refine tells_found_then (tells_bind (tells_log fun d => tells_bind (tells_log fun d₁ => ?_)))
  exact tells_pure fun _ => .completed

theorem tells_fromChapters (book : BookDetail) (reply : Reply) (page : Page) :
    Tells env t.policy (fromChapters env t book reply page) fun _ =>
      Unfolds env t.policy [.toc, .content] := by
  unfold fromChapters
  refine tells_boundary_unfolds ?_
  refine (tells_stage_then _ (tells_tocStage book reply page) fun x => ?_).mono fun d ms _ h hd =>
    h fun _ => hd
  refine tells_found_then ?_
  by_cases hfirst : (x.1.map (·.url)).headD "" = ""
  · simp only [hfirst, if_true]
    exact tells_abort .toc _ _
  · simp only [hfirst, if_false]
    exact tells_fromText _ _

theorem tells_fromDetail (url : String) :
    Tells env t.policy (fromDetail env t url) fun _ =>
      Unfolds env t.policy [.detail, .toc, .content] := by
  unfold fromDetail
  refine tells_boundary_unfolds ?_
  refine (tells_stage_then _ (tells_detailStage url) fun x => ?_).mono fun d ms _ h hd =>
    h fun _ => hd
  exact tells_found_then (tells_fromChapters x.1 x.2.1 x.2.2)

/-- All stages of a run unfold in their order, from the keyword on. -/
theorem tells_stages (env : Surroundings σ) (t : Task) (keyword : String) :
    Tells env t.policy (stages env t keyword) fun _ =>
      Unfolds env t.policy (Stage.ahead keyword) := by
  have hsay : ∀ {message : String} {k : Unit → Running σ Unit}, StartsPlain message →
      Tells env t.policy (k ()) (fun _ => Unfolds env t.policy (Stage.ahead keyword)) →
      Tells env t.policy (log env message >>= k) fun _ =>
        Unfolds env t.policy (Stage.ahead keyword) := by
    intro message k hmessage hk
    exact tells_bind (tells_log fun d => hk.mono fun _ ms _ h => h.remark hmessage)
  unfold stages
  refine hsay (.append (by decide) _) (hsay (.append (by decide) _) ?_)
  unfold detailAddress
  by_cases habsolute : Url.isAbsolute keyword.toList = true
  · rw [if_pos habsolute]
    simp only [bind_assoc, pure_bind]
    refine hsay (by decide) ?_
    rw [Stage.ahead, if_pos habsolute]
    exact tells_fromDetail keyword
  · rw [if_neg habsolute]
    simp only [bind_assoc]
    rw [Stage.ahead, if_neg habsolute]
    refine (tells_stage_then _ (tells_searchStage keyword) fun x => ?_).mono fun d ms _ h =>
      h (absurd rfl)
    refine tells_found_then ?_
    by_cases hfirst : (x.1.map (·.url)).headD "" = ""
    · simp only [hfirst, if_true, bind_assoc]
      exact tells_abort .search _ _
    · simp only [hfirst, if_false]
      exact tells_ofResult_then (fun _ _ _ => .fault) fun url _ => tells_fromDetail url

end Stages

end Running

end Gleaner
