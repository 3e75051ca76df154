/-
  Gleaner/Proofs/Fetch/Steady.lean
  ================================
  **Networks that answer by address and headers.**  On such a network a fetch comes to the
  same result in every session, whatever happened before (`certain_fetch`).
-/
import Gleaner.Proofs.Fetch.Stationary

namespace Gleaner

variable {σ α β : Type}

/-- What the network answers depends on the address and the headers of a request alone. -/
def Network.Steady (net : Network σ) (answer : String → List (String × String) → Outcome) : Prop :=
  ∀ r s, (net r s).1 = answer r.url r.headers

namespace Fetching

def Certain (work : Fetching σ α) : Prop := ∃ x, Settled work x

theorem Certain.same {work : Fetching σ α} (h : Certain work) (s t : Session σ) :
    (work s).1 = (work t).1 := by
  obtain ⟨x, hx⟩ := h
  rw [hx s, hx t]

theorem Certain.settled {work : Fetching σ α} (h : Certain work) {s : Session σ}
    {x : Except Fault α} (hx : (work s).1 = x) : Settled work x :=
  fun t => (h.same t s).trans hx

theorem Certain.bind {x : Fetching σ α} {k : α → Fetching σ β} (hx : Certain x)
    (hk : ∀ a, Certain (k a)) :
    Certain (x >>= k) := by
  obtain ⟨result, hresult⟩ := hx
  cases result with
  | error e => exact ⟨_, hresult.bind_error⟩
  | ok a =>
    obtain ⟨y, hy⟩ := hk a
    exact ⟨y, hresult.bind hy⟩

theorem certain_pure (a : α) : Certain (pure a : Fetching σ α) := ⟨_, Settled.pure a⟩

theorem certain_throw (e : Fault) : Certain (throw e : Fetching σ α) := ⟨_, Settled.throw e⟩

theorem certain_happen (e : Event) : Certain (happen e : Fetching σ Unit) := ⟨_, Settled.happen e⟩

theorem certain_ofResult (x : Except Fault α) : Certain (ofResult x : Fetching σ α) := by
  cases x with
  | ok a => exact certain_pure a
  | error e => exact certain_throw e

section Steady

variable {net : Network σ} {answer : String → List (String × String) → Outcome}
  (hnet : net.Steady answer) (p : FetchPolicy)

theorem certain_conclude {r : Request} {failed : String → String → Fetching σ Reply}
    (h : ∀ label m, Certain (failed label m)) (outcome : Outcome) :
    Certain (conclude r failed outcome) := by
  cases outcome with
  | reply reply => exact certain_pure reply
  | unsupported m => exact certain_throw _
  | malformed m => exact certain_throw _
  | fault f => exact certain_throw f
  | failed label m => exact h label m

include hnet

theorem certain_ask (r : Request) : Certain (ask net r) :=
  ⟨.ok (answer r.url r.headers), fun s => congrArg Except.ok (hnet r s.network)⟩

theorem certain_attempts (r : Request) (left attempt : Nat) :
    Certain (attempts net p r left attempt) := by
  induction left generalizing attempt with
  | zero =>
    refine (certain_ask hnet r).bind (certain_conclude fun label m => ?_)
    exact (certain_happen _).bind fun _ => certain_throw _
  | succ left ih =>
    refine (certain_ask hnet r).bind (certain_conclude fun label m => ?_)
    exact (certain_happen _).bind fun _ => (certain_happen _).bind fun _ => ih (attempt + 1)

theorem certain_follow (headers : List (String × String)) (start : String) (hops : Nat)
    (current : String) :
    Certain (follow net p headers start hops current) := by
  induction hops generalizing current with
  | zero => exact certain_throw _
  | succ hops ih =>
    unfold follow
    refine (certain_attempts hnet p _ _ 1).bind fun reply => ?_
    cases redirection? reply with
    | none => exact certain_pure reply
    | some location => exact (certain_ofResult _).bind fun next => ih next

theorem certain_fetch (url : String) (extra : List (String × String)) :
    Certain (fetch net p url extra) := by
  have hretrieve : Certain (retrieve net p url extra) := by
    unfold retrieve
    dsimp only
    split
    · exact certain_throw _
    · exact certain_follow hnet p _ _ _ _
  obtain ⟨x, hx⟩ := hretrieve
  exact ⟨x, fun s => (fetch_result net p url extra s).trans (hx s)⟩

end Steady

end Fetching

end Gleaner
