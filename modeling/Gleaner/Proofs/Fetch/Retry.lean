/-
  Gleaner/Proofs/Fetch/Retry.lean
  ===============================
  **Repetitions.**  A network that is asked the same thing again and again gives one outcome
  after another (`Network.outcome`), and the first of them may be failures of the network
  (`Network.FailsTimes`).  A hop goes through these failures, with a pause after each that
  grows with every attempt, and ends with the outcome after them; if there are more of them
  than repetitions are allowed, it gives up (`hop_repeats`).

  Any other outcome ends the hop, so nothing else is ever repeated.
-/
import Gleaner.Proofs.Fetch.Redirect
import Gleaner.Proofs.Fetch.Stationary

namespace Gleaner

variable {σ : Type}

/-- The network failed; another attempt may fare better. -/
def Outcome.IsFailure (o : Outcome) : Prop := ∃ label message, o = .failed label message

/-! ### Outcomes one after another -/

namespace Network

/-- The state of the network after it was asked the same thing so many times. -/
def after (net : Network σ) (r : Request) : Nat → σ → σ
  | 0, s => s
  | n + 1, s => net.after r n (net r s).2

def outcome (net : Network σ) (r : Request) (n : Nat) (s : σ) : Outcome :=
  (net r (net.after r n s)).1

/-- The network fails so many times in a row, and then it does not. -/
structure FailsTimes (net : Network σ) (r : Request) (k : Nat) (s : σ) : Prop where
  fails : ∀ i < k, (net.outcome r i s).IsFailure
  ends : ¬ (net.outcome r k s).IsFailure

section Asked

variable {net : Network σ} {r : Request} {s : σ} {n : Nat}

theorem FailsTimes.first (h : net.FailsTimes r (n + 1) s) :
    ∃ label m, (net r s).1 = .failed label m :=
  h.fails 0 (Nat.succ_pos n)

theorem FailsTimes.rest (h : net.FailsTimes r (n + 1) s) : net.FailsTimes r n (net r s).2 where
  fails i hi := h.fails (i + 1) (Nat.succ_lt_succ hi)
  ends := h.ends

theorem FailsTimes.unique {j k : Nat} (hj : net.FailsTimes r j s) (hk : net.FailsTimes r k s) :
    j = k := by
  rcases Nat.lt_trichotomy j k with h | h | h
  · exact absurd (hk.fails j h) hj.ends
  · exact h
  · exact absurd (hj.fails k h) hk.ends

/-- If no row of failures is as short as that, the network fails all the while. -/
theorem fails_of_long {most : Nat} (h : ∀ k, net.FailsTimes r k s → most < k) :
    ∀ i ≤ most, (net.outcome r i s).IsFailure := by
  intro i
  induction i using Nat.strong_induction_on with
  | _ i ih =>
    intro hi
    by_contra hends
    have hfails : ∀ j < i, (net.outcome r j s).IsFailure := fun j hj => ih j hj (by omega)
    have hlong := h i ⟨hfails, hends⟩
    omega

end Asked

end Network

/-! ### Attempts -/

theorem Event.requests_append (xs ys : List Event) :
    requests (xs ++ ys) = requests xs ++ requests ys :=
  List.filterMap_append

theorem Event.pauses_append (xs ys : List Event) : pauses (xs ++ ys) = pauses xs ++ pauses ys :=
  List.filterMap_append

def Session.pauses (s : Session σ) : List Seconds := Event.pauses s.events

namespace Fetching

/-- What happens while a request fails so many times and is repeated each time, from this
    attempt on. -/
def repetitions (p : FetchPolicy) (r : Request) : Nat → Nat → List Event
  | 0, _ => []
  | k + 1, attempt =>
      .asked r :: .notice (retryLine p r.url attempt) :: .pause (p.delay attempt)
        :: repetitions p r k (attempt + 1)

theorem requests_repetitions (p : FetchPolicy) (r : Request) (k attempt : Nat) :
    Event.requests (repetitions p r k attempt) = List.replicate k r := by
  induction k generalizing attempt with
  | zero => rfl
  | succ k ih => exact congrArg (r :: ·) (ih (attempt + 1))

theorem pauses_repetitions (p : FetchPolicy) (r : Request) (k attempt : Nat) :
    Event.pauses (repetitions p r k attempt) = (List.range' attempt k).map p.delay := by
  induction k generalizing attempt with
  | zero => rfl
  | succ k ih => exact congrArg (p.delay attempt :: ·) (ih (attempt + 1))

/-- From one session to another the request is put to the network so many times and once more,
    with a pause before every repetition and nothing else but lines for a person. -/
structure Persists (net : Network σ) (p : FetchPolicy) (r : Request) (k : Nat) (s t : Session σ) :
    Prop where
  network : t.network = net.after r (k + 1) s.network
  requests : t.requests = s.requests ++ List.replicate (k + 1) r
  pauses : t.pauses = s.pauses ++ (List.range' 1 k).map p.delay
  order : ∃ lines : List String,
    t.events = s.events ++ repetitions p r k 1 ++ .asked r :: lines.map .notice

theorem Persists.of_events {net : Network σ} {p : FetchPolicy} {r : Request} {k : Nat}
    {s t : Session σ} (lines : List String) (hnetwork : t.network = net.after r (k + 1) s.network)
    (h : t.events = s.events ++ repetitions p r k 1 ++ .asked r :: lines.map .notice) :
    Persists net p r k s t := by
  have hrequests : Event.requests (.asked r :: lines.map .notice) = [r] := by simp [Event.requests]
  have hpauses : Event.pauses (.asked r :: lines.map .notice) = [] := by simp [Event.pauses]
  refine ⟨hnetwork, ?_, ?_, lines, h⟩
  · unfold Session.requests
    rw [h, Event.requests_append, Event.requests_append, requests_repetitions, hrequests,
      List.append_assoc, ← List.replicate_succ']
  · unfold Session.pauses
    rw [h, Event.pauses_append, Event.pauses_append, pauses_repetitions, hpauses, List.append_nil]

section Attempts

variable {net : Network σ} {p : FetchPolicy} {r : Request} {left attempt k : Nat} {s : Session σ}

/-- An outcome that is no failure of the network is final. -/
theorem conclude_of_not_failure {failed : String → String → Fetching σ Reply} {o : Outcome}
    (h : ¬ o.IsFailure) (s : Session σ) : conclude r failed o s = (settledHop r.url o, s) := by
  cases o with
  | reply reply => rfl
  | unsupported m => rfl
  | malformed m => rfl
  | fault f => rfl
  | failed label m => exact absurd ⟨label, m, rfl⟩ h

def afterFailure (net : Network σ) (p : FetchPolicy) (r : Request) (attempt : Nat) (s : Session σ) :
    Session σ :=
  ((Session.ask net r s).2.note (.notice (retryLine p r.url attempt))).note
    (.pause (p.delay attempt))

theorem events_afterFailure (net : Network σ) (p : FetchPolicy) (r : Request) (attempt : Nat)
    (s : Session σ) : (afterFailure net p r attempt s).events
      = s.events ++ [.asked r, .notice (retryLine p r.url attempt), .pause (p.delay attempt)] := by
  change s.events ++ [_] ++ [_] ++ [_] = _
  simp

theorem attempts_again {label m : String} (h : (net r s.network).1 = .failed label m) :
    attempts net p r (left + 1) attempt s
      = attempts net p r left (attempt + 1) (afterFailure net p r attempt s) := by
  rw [attempts, ask_bind, h]
  rfl

theorem attempts_last {label m : String} (h : (net r s.network).1 = .failed label m) :
    attempts net p r 0 attempt s = (settledHop r.url (.failed label m),
      (Session.ask net r s).2.note (.notice (givenUpLine r.url attempt label m))) := by
  rw [attempts, ask_bind, h]
  rfl

theorem attempts_of_not_failure (h : ¬ (net r s.network).1.IsFailure) :
    attempts net p r left attempt s
      = (settledHop r.url (net r s.network).1, (Session.ask net r s).2) := by
  cases left with
  | zero => rw [attempts, ask_bind, conclude_of_not_failure h]
  | succ left => rw [attempts, ask_bind, conclude_of_not_failure h]

/-- As many failures as there are repetitions left, or fewer, are gone through. -/
theorem attempts_of_failsTimes (left attempt : Nat) (s : Session σ) (hk : k ≤ left)
    (h : net.FailsTimes r k s.network) :
    ∃ t, attempts net p r left attempt s = (settledHop r.url (net.outcome r k s.network), t)
      ∧ t.network = net.after r (k + 1) s.network
      ∧ t.events = s.events ++ repetitions p r k attempt ++ [.asked r] := by
  -- every failure leaves a session of its own, in which the rest of the row is met
  induction k generalizing left attempt s with
  | zero =>
    refine ⟨_, attempts_of_not_failure h.ends, rfl, ?_⟩
    rw [repetitions, List.append_nil]
    rfl
  | succ k ih =>
    obtain ⟨label, m, hfailed⟩ := h.first
    cases left with
    | zero => exact absurd hk (by simp)
    | succ left =>
      obtain ⟨t, hrun, hnetwork, hevents⟩ := ih left (attempt + 1)
        (afterFailure net p r attempt s) (Nat.le_of_succ_le_succ hk) h.rest
      refine ⟨t, (attempts_again hfailed).trans hrun, hnetwork, ?_⟩
      rw [hevents, events_afterFailure, repetitions]
      simp

/-- Failures to the last attempt are what the request comes to. -/
theorem attempts_of_fails (left attempt : Nat) (s : Session σ)
    (h : ∀ i ≤ left, (net.outcome r i s.network).IsFailure) :
    ∃ label m t, net.outcome r left s.network = .failed label m
      ∧ attempts net p r left attempt s
        = (.error (.transport ("Network request failed: " ++ m) (some r.url)), t)
      ∧ t.network = net.after r (left + 1) s.network
      ∧ t.events = s.events ++ repetitions p r left attempt
        ++ [.asked r, .notice (givenUpLine r.url (attempt + left) label m)] := by
  induction left generalizing attempt s with
  | zero =>
    obtain ⟨label, m, hfailed⟩ := h 0 (Nat.le_refl 0)
    refine ⟨label, m, _, hfailed, attempts_last hfailed, rfl, ?_⟩
    rw [repetitions, List.append_nil]
    exact List.append_assoc _ [_] [_]
  | succ left ih =>
    obtain ⟨label, m, hfailed⟩ := h 0 (Nat.zero_le _)
    obtain ⟨label', m', t, hlast, hrun, hnetwork, hevents⟩ := ih (attempt + 1)
      (afterFailure net p r attempt s) fun i hi => h (i + 1) (Nat.succ_le_succ hi)
    refine ⟨label', m', t, hlast, (attempts_again hfailed).trans hrun, hnetwork, ?_⟩
    rw [hevents, events_afterFailure, repetitions, Nat.add_right_comm attempt 1 left]
    simp [Nat.add_assoc]

end Attempts

/-! ### Hops -/

def hopRequest (p : FetchPolicy) (headers : List (String × String)) (url : String) : Request :=
  ⟨url, headers, p.timeout⟩

/-- If the network fails some times and repetitions are allowed as often, the request is put
    once more than that, with the pauses of these repetitions in between, and the hop comes to
    the outcome after the failures: its reply, whatever the status, or its fault.  If the
    network fails more often, or for ever, the request is put once more than it may be
    repeated, and the hop fails with a fault of the network that names the address.  A limit
    below zero is none. -/
theorem hop_repeats (net : Network σ) (p : FetchPolicy) (headers : List (String × String))
    (url : String) (s : Session σ) :
    (∀ k : Nat, net.FailsTimes (hopRequest p headers url) k s.network → k ≤ max p.retries 0 →
      ∃ t, hop net p headers url s
        = (settledHop url (net.outcome (hopRequest p headers url) k s.network), t)
        ∧ Persists net p (hopRequest p headers url) k s t)
    ∧ ((∀ k : Nat, net.FailsTimes (hopRequest p headers url) k s.network → max p.retries 0 < k) →
      ∃ label m t,
        net.outcome (hopRequest p headers url) p.retries.toNat s.network = .failed label m
        ∧ hop net p headers url s
          = (.error (.transport ("Network request failed: " ++ m) (some url)), t)
        ∧ Persists net p (hopRequest p headers url) p.retries.toNat s t) := by
  constructor
  · intro k hfails hk
    have hallowed : k ≤ p.retries.toNat := by omega
    obtain ⟨t, hrun, hnetwork, hevents⟩ := attempts_of_failsTimes (p := p) _ 1 s hallowed hfails
    exact ⟨t, hrun, .of_events [] hnetwork hevents⟩
  · intro hlong
    have hfails :
        ∀ i ≤ p.retries.toNat, (net.outcome (hopRequest p headers url) i s.network).IsFailure := by
      apply Network.fails_of_long
      intro k hk
      have hmore := hlong k hk
      omega
    obtain ⟨label, m, t, hlast, hrun, hnetwork, hevents⟩ := attempts_of_fails (p := p) _ 1 s hfails
    exact ⟨label, m, t, hlast, hrun, .of_events [_] hnetwork hevents⟩

/-- A network that fails as often as its state says, and then has no room. -/
def faltering : Network Nat
  | r, 0 => (.reply ⟨r.url, 503, [], []⟩, 0)
  | _, n + 1 => (.failed "ConnectError" "refused", n)

theorem faltering_failsTimes (r : Request) (n : Nat) : faltering.FailsTimes r n n := by
  induction n with
  | zero => exact ⟨fun i hi => absurd hi (Nat.not_lt_zero i), fun ⟨_, _, h⟩ => nomatch h⟩
  | succ n ih =>
    refine ⟨fun i hi => ?_, ih.ends⟩
    cases i with
    | zero => exact ⟨_, _, rfl⟩
    | succ i => exact ih.fails i (Nat.lt_of_succ_lt_succ hi)

/-- Two failures are gone through where two repetitions are allowed, with pauses of one and
    of two times the base delay; where none is allowed, the first of them is the end. -/
theorem faltering_persists :
    (∃ t, hop faltering ⟨2, .whole 3, .whole 1, 0, "gleaner"⟩ [] "http://a" (.start 2)
        = (.ok ⟨"http://a", 503, [], []⟩, t)
      ∧ t.requests.length = 3 ∧ t.pauses = [.whole 3, .whole 6])
    ∧ ∃ t, hop faltering ⟨-1, .whole 3, .whole 1, 0, "gleaner"⟩ [] "http://a" (.start 2)
        = (.error (.transport "Network request failed: refused" (some "http://a")), t)
      ∧ t.requests.length = 1 ∧ t.pauses = [] := by
  constructor
  · obtain ⟨hends, -⟩ :=
      hop_repeats faltering ⟨2, .whole 3, .whole 1, 0, "gleaner"⟩ [] "http://a" (.start 2)
    obtain ⟨t, hrun, hpersists⟩ := hends 2 (faltering_failsTimes _ 2) (by decide)
    refine ⟨t, hrun, ?_, hpersists.pauses⟩
    rw [hpersists.requests]
    rfl
  · obtain ⟨-, hgives⟩ :=
      hop_repeats faltering ⟨-1, .whole 3, .whole 1, 0, "gleaner"⟩ [] "http://a" (.start 2)
    obtain ⟨label, m, t, hlast, hrun, hpersists⟩ := hgives fun k hk => by
      rw [hk.unique (faltering_failsTimes _ 2)]
      decide
    cases hlast
    refine ⟨t, hrun, ?_, hpersists.pauses⟩
    rw [hpersists.requests]
    rfl

end Fetching

end Gleaner
