/-
  Gleaner/Proofs/Fetch/Fault.lean
  ===============================
  **Faults of fetching.**  A network that gives replies, or fails in a way that fetching
  accounts for, is orderly.  On such a network a fetch fails with a fault of fetching
  (`Fault.IsOfFetch`), which ends a stage, or because a reply redirects to an address that
  cannot be made (`fetch_fault`).
-/
import Gleaner.Fetch.Retrieve
import Gleaner.Proofs.Fault
import Gleaner.Proofs.Fetch.Log

namespace Gleaner

variable {σ α β : Type}

/-! ### Faults -/

/-- A fault of fetching: the network failed or redirects too often, or the address is not one
    to ask for. -/
def Fault.IsOfFetch (e : Fault) : Prop :=
  (∃ m url, e = .transport m url) ∨ ∃ m url, e = .config m url

theorem Fault.isOfFetch_transport (m : String) (url : Option String) :
    (Fault.transport m url).IsOfFetch :=
  .inl ⟨m, url, rfl⟩

theorem Fault.isOfFetch_config (m : String) (url : Option String) :
    (Fault.config m url).IsOfFetch :=
  .inr ⟨m, url, rfl⟩

theorem Fault.IsOfFetch.endsStage {e : Fault} (h : e.IsOfFetch) : e.endsStage = true := by
  rcases h with ⟨m, url, rfl⟩ | ⟨m, url, rfl⟩ <;> rfl

/-! ### Redirects -/

namespace Url

theorem split_fault (url : List Char) : FailsBy Fault.IsBadValue (split url) :=
  fun _ h => splitWith_fault h

/-- The target of a redirect is refused for what the location is. -/
theorem redirectTarget_fault (current location : String) :
    FailsBy Fault.IsBadValue (redirectTarget current location) := by
  unfold redirectTarget redirectChars
  apply FailsBy.map
  refine (split_fault _).bind fun l => ?_
  split
  · exact .ok _
  · refine (split_fault _).bind fun c => ?_
    refine FailsBy.bind (fun e he => join_fault he) fun joined => ?_
    exact (split_fault _).bind fun t => .ok _

end Url

/-! ### Networks -/

namespace Network

/-- Requests are answered, or they fail in a way that fetching accounts for. -/
def Orderly (net : Network σ) : Prop := ∀ r s f, (net r s).1 ≠ .fault f

/-- Asking for an address fails with faults of this kind alone. -/
structure FailsIn (net : Network σ) (kind : Fault → Prop) : Prop where
  ofFetch : ∀ e : Fault, e.IsOfFetch → kind e
  other : ∀ r s f, (net r s).1 = .fault f → kind f

theorem Orderly.failsIn {net : Network σ} (h : net.Orderly) : net.FailsIn Fault.IsOfFetch :=
  ⟨fun _ he => he, fun r s f hf => absurd hf (h r s f)⟩

theorem failsIn_any (net : Network σ) : net.FailsIn fun _ => True :=
  ⟨fun _ _ => trivial, fun _ _ _ _ => trivial⟩

def Answers (net : Network σ) (url : String) (reply : Reply) : Prop :=
  ∃ r s, r.url = url ∧ (net r s).1 = .reply reply

/-- A reply redirects to an address that cannot be made, and this is the fault. -/
def Misdirects (net : Network σ) (e : Fault) : Prop :=
  ∃ url reply location, net.Answers url reply ∧ Fetching.redirection? reply = some location
    ∧ Url.redirectTarget url location = .error e

theorem Misdirects.endsStage {net : Network σ} {e : Fault} (h : net.Misdirects e) :
    e.endsStage = false := by
  obtain ⟨url, reply, location, -, -, he⟩ := h
  obtain ⟨m, rfl⟩ := Url.redirectTarget_fault url location e he
  rfl

end Network

/-! ### Fetches -/

namespace Fetching

/-- Whatever happened before, the work comes to a result that `Φ` allows. -/
def ComesTo (work : Fetching σ α) (Φ : Except Fault α → Prop) : Prop := ∀ s, Φ (work s).1

section Rules

variable {Φ : Except Fault α → Prop} {Ψ : Except Fault β → Prop}

theorem comesTo_pure {a : α} (h : Φ (.ok a)) : ComesTo (pure a : Fetching σ α) Φ := fun _ => h

theorem comesTo_throw {e : Fault} (h : Φ (.error e)) :
    ComesTo (throw e : Fetching σ α) Φ := fun _ => h

/-- Work comes to what its two parts come to. -/
theorem comesTo_bind {x : Fetching σ α} {k : α → Fetching σ β}
    (h : ComesTo x fun result => match result with
      | .ok a => ComesTo (k a) Ψ
      | .error e => Ψ (.error e)) : ComesTo (x >>= k) Ψ := by
  intro s
  have hx := h s
  rw [bind_run]
  rcases hrun : x s with ⟨result, s'⟩
  rw [hrun] at hx
  cases result with
  | ok a => exact hx s'
  | error e => exact hx

theorem comesTo_happen {e : Event} {Φ : Except Fault Unit → Prop} (h : Φ (.ok ())) :
    ComesTo (happen e : Fetching σ Unit) Φ := fun _ => h

end Rules

section Networks

variable {net : Network σ} {p : FetchPolicy} {kind : Fault → Prop}

def HopPost (net : Network σ) (kind : Fault → Prop) (url : String) : Except Fault Reply → Prop
  | .ok reply => net.Answers url reply
  | .error e => kind e

theorem comesTo_conclude {r : Request} {s : σ} {failed : String → String → Fetching σ Reply}
    (h : net.FailsIn kind)
    (hfailed : ∀ label m, ComesTo (failed label m) (HopPost net kind r.url)) :
    ComesTo (conclude r failed (net r s).1) (HopPost net kind r.url) := by
  cases houtcome : (net r s).1 with
  | reply reply => exact comesTo_pure ⟨r, s, rfl, houtcome⟩
  | unsupported m => exact comesTo_throw (h.ofFetch _ (Fault.isOfFetch_config _ _))
  | malformed m => exact comesTo_throw (h.ofFetch _ (Fault.isOfFetch_config _ _))
  | fault f => exact comesTo_throw (h.other r s f houtcome)
  | failed label m => exact hfailed label m

/-- Whatever the network does in between, all attempts together fail by its faults alone. -/
theorem comesTo_attempts (h : net.FailsIn kind) (r : Request) :
    ∀ left attempt, ComesTo (attempts net p r left attempt) (HopPost net kind r.url) := by
  intro left
  induction left with
  | zero =>
    intro attempt
    refine comesTo_bind fun s => comesTo_conclude (s := s.network) h fun label m => ?_
    exact comesTo_bind
      (comesTo_happen (comesTo_throw (h.ofFetch _ (Fault.isOfFetch_transport _ _))))
  | succ left ih =>
    intro attempt
    refine comesTo_bind fun s => comesTo_conclude (s := s.network) h fun label m => ?_
    exact comesTo_bind (comesTo_happen (comesTo_bind (comesTo_happen (ih (attempt + 1)))))

theorem hop_post (h : net.FailsIn kind) (headers : List (String × String)) (url : String) :
    ComesTo (hop net p headers url) (HopPost net kind url) :=
  comesTo_attempts h ⟨url, headers, p.timeout⟩ _ 1

def ChainPost (net : Network σ) (kind : Fault → Prop) : Except Fault Reply → Prop
  | .ok reply => ∃ url, net.Answers url reply
  | .error e => kind e ∨ net.Misdirects e

/-- A chain of redirects fails by the network, by a location or by its length; by induction
    on the hops that are left. -/
theorem comesTo_follow (h : net.FailsIn kind) (headers : List (String × String)) (start : String) :
    ∀ hops current, ComesTo (follow net p headers start hops current) (ChainPost net kind) := by
  intro hops
  induction hops with
  | zero => intro current; exact comesTo_throw (.inl (h.ofFetch _ (Fault.isOfFetch_transport _ _)))
  | succ hops ih =>
    intro current
    unfold follow
    refine comesTo_bind fun s => ?_
    have hhop : HopPost net kind current (hop net p headers current s).1 :=
      hop_post h headers current s
    cases hresult : (hop net p headers current s).1 with
    | error e =>
      rw [hresult] at hhop
      exact .inl hhop
    | ok reply =>
      rw [hresult] at hhop
      dsimp only
      cases hredirection : redirection? reply with
      | none => exact comesTo_pure ⟨current, hhop⟩
      | some location =>
        refine comesTo_bind fun s' => ?_
        dsimp only
        cases hnext : Url.redirectTarget current location with
        | error e => exact .inr ⟨current, reply, location, hhop, hredirection, hnext⟩
        | ok next => exact ih next

/-- A fetch comes to a reply of the network, or it fails as asking for an address does, or it
    is misdirected. -/
theorem fetch_fault (h : net.FailsIn kind) (url : String) (extra : List (String × String)) :
    ComesTo (fetch net p url extra) (ChainPost net kind) := by
  intro s
  have hretrieve : ComesTo (retrieve net p url extra) (ChainPost net kind) := by
    unfold retrieve
    dsimp only
    by_cases hurl : Text.trim url = ""
    · rw [if_pos hurl]
      exact comesTo_throw (.inl (h.ofFetch _ (Fault.isOfFetch_config _ _)))
    · rw [if_neg hurl]
      exact comesTo_follow h _ _ _ _
  rw [fetch_result]
  exact hretrieve s

end Networks

end Fetching

end Gleaner
