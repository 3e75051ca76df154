/-
  Gleaner/Proofs/Fetch/Stationary.lean
  ====================================
  **Stationary networks.**  A network is stationary if what it answers depends on the
  address alone.  On such a network a fetch always comes to the same result, whatever was
  fetched before, with any headers and any number of repetitions (`settled_fetch`), and the
  address of the last reply leads straight back to it (`settledFetch_own`).
-/
import Gleaner.Proofs.Fetch.Log
import Gleaner.Proofs.Text.Trim

namespace Gleaner

variable {σ α β : Type}

/-- The network answers by the address alone, and a reply has the address that was asked
    for. -/
structure Network.Stationary (net : Network σ) (answer : String → Outcome) : Prop where
  answers : ∀ r s, (net r s).1 = answer r.url
  own : ∀ url reply, answer url = .reply reply → reply.url = url

namespace Fetching

def Settled (work : Fetching σ α) (x : Except Fault α) : Prop := ∀ s, (work s).1 = x

theorem Settled.pure (a : α) : Settled (pure a : Fetching σ α) (.ok a) := fun _ => rfl

theorem Settled.throw (e : Fault) : Settled (throw e : Fetching σ α) (.error e) := fun _ => rfl

theorem Settled.happen (e : Event) : Settled (happen e : Fetching σ Unit) (.ok ()) := fun _ => rfl

theorem Settled.bind {x : Fetching σ α} {k : α → Fetching σ β} {a : α} {y : Except Fault β}
    (hx : Settled x (.ok a)) (hk : Settled (k a) y) : Settled (x >>= k) y := by
  intro s
  have hresult := hx s
  rw [bind_run]
  rcases hrun : x s with ⟨result, s'⟩
  rw [hrun] at hresult
  obtain rfl : result = .ok a := hresult
  exact hk s'

theorem Settled.bind_error {x : Fetching σ α} {k : α → Fetching σ β} {e : Fault}
    (hx : Settled x (.error e)) : Settled (x >>= k) (.error e) := by
  intro s
  have hresult := hx s
  rw [bind_run]
  rcases hrun : x s with ⟨result, s'⟩
  rw [hrun] at hresult
  obtain rfl : result = .error e := hresult
  rfl

/-! ### One address -/

def settledHop (url : String) : Outcome → Except Fault Reply
  | .reply reply => .ok reply
  | .unsupported m => .error (.config ("Unsupported URL: " ++ m) (some url))
  | .malformed m => .error (.config ("Invalid URL: " ++ m) (some url))
  | .fault f => .error f
  | .failed _ m => .error (.transport ("Network request failed: " ++ m) (some url))

section Stationary

variable {net : Network σ} {answer : String → Outcome} {p : FetchPolicy}

theorem settled_ask (h : net.Stationary answer) (r : Request) :
    Settled (ask net r) (.ok (answer r.url)) := by
  intro s
  change Except.ok (net r s.network).1 = _
  rw [h.answers]

theorem settled_conclude {r : Request} {failed : String → String → Fetching σ Reply}
    (outcome : Outcome) (h : ∀ label m, outcome = .failed label m →
      Settled (failed label m) (settledHop r.url outcome)) :
    Settled (conclude r failed outcome) (settledHop r.url outcome) := by
  cases outcome with
  | reply reply => exact Settled.pure reply
  | unsupported m => exact Settled.throw _
  | malformed m => exact Settled.throw _
  | fault f => exact Settled.throw f
  | failed label m => exact h label m rfl

/-- On a stationary site it makes no difference how often is asked. -/
theorem settled_attempts (h : net.Stationary answer) (r : Request) :
    ∀ left attempt, Settled (attempts net p r left attempt) (settledHop r.url (answer r.url)) := by
  intro left
  induction left with
  | zero =>
    intro attempt
    refine (settled_ask h r).bind (settled_conclude _ fun label m hfailed => ?_)
    rw [hfailed]
    exact (Settled.happen _).bind (Settled.throw _)
  | succ left ih =>
    intro attempt
    refine (settled_ask h r).bind (settled_conclude _ fun label m _ => ?_)
    exact (Settled.happen _).bind ((Settled.happen _).bind (ih (attempt + 1)))

/-! ### A chain of addresses -/

def settledFollow (answer : String → Outcome) (limit : Int) (start : String) :
    Nat → String → Except Fault Reply
  | 0, _ =>
      .error (.transport ("Too many redirects (more than " ++ toString limit ++ ")") (some start))
  | hops + 1, current =>
      (settledHop current (answer current)).bind fun reply =>
        match redirection? reply with
        | none => .ok reply
        | some location =>
            (Url.redirectTarget current location).bind (settledFollow answer limit start hops)

def settledFetch (answer : String → Outcome) (limit : Int) (url : String) : Except Fault Reply :=
  let url := Text.trim url
  if url = "" then .error (.config "URL must not be empty" none)
  else settledFollow answer limit url (limit + 1).toNat url

/-- What following redirects comes to depends on the addresses alone, by induction on the
    hops. -/
theorem settled_follow (h : net.Stationary answer) (headers : List (String × String))
    (start : String) : ∀ hops current,
      Settled (follow net p headers start hops current)
        (settledFollow answer p.maxRedirects start hops current) := by
  intro hops
  induction hops with
  | zero => intro current; exact Settled.throw _
  | succ hops ih =>
    intro current
    have hhop : Settled (hop net p headers current) (settledHop current (answer current)) :=
      settled_attempts h ⟨current, headers, p.timeout⟩ _ 1
    unfold follow settledFollow
    cases hanswer : settledHop current (answer current) with
    | error e => exact (hanswer ▸ hhop).bind_error
    | ok reply =>
      refine Settled.bind (hanswer ▸ hhop) ?_
      dsimp only [Except.bind]
      cases redirection? reply with
      | none => exact Settled.pure reply
      | some location =>
        dsimp only
        generalize Url.redirectTarget current location = target
        cases target with
        | error e => exact Settled.bind_error (Settled.throw e)
        | ok next => exact Settled.bind (Settled.pure next) (ih next)

/-- Neither the session nor the headers nor repetitions matter for what a fetch comes to. -/
theorem settled_fetch (h : net.Stationary answer) (url : String) (extra : List (String × String)) :
    Settled (fetch net p url extra) (settledFetch answer p.maxRedirects url) := by
  intro s
  have hretrieve : Settled (retrieve net p url extra) (settledFetch answer p.maxRedirects url) := by
    unfold retrieve settledFetch
    dsimp only
    by_cases hurl : Text.trim url = ""
    · rw [if_pos hurl, if_pos hurl]
      exact Settled.throw _
    · rw [if_neg hurl, if_neg hurl]
      exact settled_follow h _ _ _ _
  rw [fetch_result]
  exact hretrieve s

end Stationary

/-! ### The address of the last reply -/

section Own

variable {answer : String → Outcome} {limit : Int}

theorem settledHop_ok {url : String} {outcome : Outcome} {reply : Reply}
    (h : settledHop url outcome = .ok reply) : outcome = .reply reply := by
  cases outcome with
  | reply reply' => cases h; rfl
  | unsupported m => cases h
  | malformed m => cases h
  | fault f => cases h
  | failed label m => cases h

/-- The last reply of a chain does not redirect, and its address answers with it. -/
theorem settledFollow_last (hown : ∀ url reply, answer url = .reply reply → reply.url = url)
    {start : String} {reply : Reply} : ∀ hops current,
      settledFollow answer limit start hops current = .ok reply →
        answer reply.url = .reply reply ∧ redirection? reply = none ∧ hops ≠ 0 := by
  intro hops
  induction hops with
  | zero => intro current h; cases h
  | succ hops ih =>
    intro current h
    unfold settledFollow at h
    cases hhop : settledHop current (answer current) with
    | error e => rw [hhop] at h; cases h
    | ok first =>
      rw [hhop] at h
      dsimp only [Except.bind] at h
      have hanswer := settledHop_ok hhop
      cases hredirection : redirection? first with
      | none =>
        rw [hredirection] at h
        cases h
        exact ⟨by rw [hown current reply hanswer, hanswer], hredirection, by simp⟩
      | some location =>
        rw [hredirection] at h
        dsimp only at h
        cases hnext : Url.redirectTarget current location with
        | error e => rw [hnext] at h; cases h
        | ok next =>
          rw [hnext] at h
          obtain ⟨hlast, hnone, -⟩ := ih next h
          exact ⟨hlast, hnone, by simp⟩

theorem settledFetch_trim (answer : String → Outcome) (limit : Int) (url : String) :
    settledFetch answer limit (Text.trim url) = settledFetch answer limit url := by
  unfold settledFetch
  rw [Text.trim_trim]

/-- The address of the last reply leads straight back to it. -/
theorem settledFetch_own (hown : ∀ url reply, answer url = .reply reply → reply.url = url)
    {url : String} {reply : Reply} (h : settledFetch answer limit url = .ok reply)
    (htrim : Text.trim reply.url = reply.url) (hne : reply.url ≠ "") :
    settledFetch answer limit reply.url = .ok reply := by
  unfold settledFetch at h ⊢
  dsimp only at h ⊢
  split at h
  · cases h
  · obtain ⟨hanswer, hnone, hhops⟩ := settledFollow_last hown _ _ h
    rw [htrim, if_neg hne]
    obtain ⟨hops, hsucc⟩ := Nat.exists_eq_succ_of_ne_zero hhops
    rw [hsucc]
    unfold settledFollow
    rw [hanswer]
    simp only [settledHop, Except.bind, hnone]

end Own

end Fetching

end Gleaner
