/-
  Gleaner/Proofs/Fetch/Failure.lean
  =================================
  **How a fetch can fail.**  On an orderly network a fetch fails with a fault of fetching,
  and one that asks for a status of success with that or with the status, save in one case:
  redirects that it may follow lead it to a reply whose location cannot be made an address
  (`IsLost`).  Then the fault is that of the address, a bad value (`fetch_failures`).

  A location is no business of the network, so the network that sends one like that is as
  orderly as any other (`stray_location_escapes`).
-/
import Gleaner.Proofs.Fetch.Fault
import Gleaner.Proofs.Fetch.Redirect

namespace Gleaner

variable {σ : Type}

def Fault.IsStatus (e : Fault) : Prop := ∃ m url code, e = .status m url code

theorem Fault.IsBadValue.foreign {e : Fault} (h : e.IsBadValue) : ¬ e.IsOfFetch ∧ ¬ e.IsStatus := by
  obtain ⟨m, rfl⟩ := h
  constructor
  · rintro (⟨_, _, heq⟩ | ⟨_, _, heq⟩) <;> cases heq
  · rintro ⟨_, _, _, heq⟩
    cases heq

namespace Fetching

/-- From an address on, fewer redirects than `hops` lead to a reply whose location cannot be
    made an address, and this is the fault. -/
def LosesItself (net : Network σ) (p : FetchPolicy) (headers : List (String × String)) (hops : Nat)
    (url : String) (s : Session σ) (e : Fault) : Prop :=
  ∃ visited last s' reply t location, Leads net p headers url s visited last s'
    ∧ visited.length < hops ∧ hop net p headers last s' = (.ok reply, t)
    ∧ redirection? reply = some location ∧ Url.redirectTarget last location = .error e

/-- A fetch of the address comes, by as many redirects as it may follow at most, to a location
    that cannot be made an address. -/
def IsLost (net : Network σ) (p : FetchPolicy) (url : String) (extra : List (String × String))
    (s : Session σ) (e : Fault) : Prop :=
  Text.trim url ≠ ""
    ∧ LosesItself net p (p.headers extra) (p.maxRedirects + 1).toNat (Text.trim url) s e

section Failures

variable {net : Network σ} {p : FetchPolicy} {headers : List (String × String)} {start url : String}
  {hops : Nat} {s : Session σ} {e : Fault}

theorem LosesItself.badValue (h : LosesItself net p headers hops url s e) : e.IsBadValue := by
  obtain ⟨visited, last, s', reply, t, location, -, -, -, -, hnext⟩ := h
  exact Url.redirectTarget_fault last location e hnext

/-- Where the chain of redirects ends decides how it can fail. -/
theorem follow_error (hnet : net.Orderly)
    (h : (follow net p headers start hops url s).1 = .error e) :
    e.IsOfFetch ∨ LosesItself net p headers hops url s e := by
  obtain ⟨visited, last, s', asked, hleads, hends⟩ := follow_leads net p headers start hops url s
  rw [h] at hends
  cases hends with
  | failed hmore hhop =>
    have hpost := hop_post (p := p) hnet.failsIn headers last s'
    rw [hhop] at hpost
    exact .inl hpost
  | lost hmore hhop hredirects hnext =>
    exact .inr ⟨visited, last, s', _, _, _, hleads, hmore, hhop, hredirects, hnext⟩
  | exhausted hnone => exact .inl (Fault.isOfFetch_transport _ _)

theorem follow_of_losesItself (h : LosesItself net p headers hops url s e) :
    (follow net p headers start hops url s).1 = .error e := by
  obtain ⟨visited, last, s', reply, t, location, hleads, hmore, hhop, hredirects, hnext⟩ := h
  rw [hleads.follow_eq (.lost hmore hhop hredirects hnext)]

variable {extra : List (String × String)}

/-- A fetch fails by its own faults, or because it is lost. -/
theorem fetch_error (hnet : net.Orderly) (h : (fetch net p url extra s).1 = .error e) :
    e.IsOfFetch ∨ IsLost net p url extra s e := by
  rw [fetch_result] at h
  unfold retrieve at h
  by_cases hurl : Text.trim url = ""
  · rw [if_pos hurl] at h
    cases h
    exact .inl (Fault.isOfFetch_config _ _)
  · rw [if_neg hurl] at h
    exact (follow_error hnet h).imp_right fun hlost => ⟨hurl, hlost⟩

theorem fetch_of_isLost (h : IsLost net p url extra s e) :
    (fetch net p url extra s).1 = .error e := by
  rw [fetch_result]
  unfold retrieve
  rw [if_neg h.1]
  exact follow_of_losesItself h.2

/-- Asking for a status of success adds one way to fail. -/
theorem fetchOk_result (net : Network σ) (p : FetchPolicy) (url : String)
    (extra : List (String × String)) (s : Session σ) :
    (fetchOk net p url extra s).1 = match (fetch net p url extra s).1 with
      | .error e => .error e
      | .ok reply =>
          if reply.isOk then .ok reply
          else .error (.status "Request failed" (some reply.url) reply.status) := by
  unfold fetchOk
  rw [bind_run]
  rcases fetch net p url extra s with ⟨e | reply, s'⟩
  · rfl
  · dsimp only
    by_cases hok : reply.isOk = true
    · rw [if_pos hok, if_pos hok]
      rfl
    · rw [if_neg hok, if_neg hok]
      rfl

theorem fetchOk_error (h : (fetchOk net p url extra s).1 = .error e) :
    (fetch net p url extra s).1 = .error e ∨ e.IsStatus := by
  rw [fetchOk_result] at h
  cases hfetch : (fetch net p url extra s).1 with
  | error e' =>
    rw [hfetch] at h
    exact .inl h
  | ok reply =>
    rw [hfetch] at h
    dsimp only at h
    split at h
    · cases h
    · cases h
      exact .inr ⟨_, _, _, rfl⟩

end Failures

/-- On an orderly network a fetch fails with a fault of fetching, and one that asks for a
    status of success with such a fault or a status.  The only other fault is the bad value of
    a location that cannot be made an address, and it comes up exactly if redirects that may
    be followed lead to such a location. -/
theorem fetch_failures (net : Network σ) (p : FetchPolicy) (url : String)
    (extra : List (String × String)) (s : Session σ) (hnet : net.Orderly) (e : Fault) :
    ((fetch net p url extra s).1 = .error e ∧ ¬ e.IsOfFetch ↔ IsLost net p url extra s e)
      ∧ ((fetchOk net p url extra s).1 = .error e ∧ ¬ e.IsOfFetch ∧ ¬ e.IsStatus
        ↔ IsLost net p url extra s e)
      ∧ (IsLost net p url extra s e → e.IsBadValue) := by
  refine ⟨⟨?_, ?_⟩, ⟨?_, ?_⟩, fun h => h.2.badValue⟩
  · rintro ⟨h, hforeign⟩
    exact (fetch_error hnet h).resolve_left hforeign
  · intro h
    exact ⟨fetch_of_isLost h, h.2.badValue.foreign.1⟩
  · rintro ⟨h, hforeign, hstatus⟩
    have hfetch := (fetchOk_error h).resolve_right hstatus
    exact (fetch_error hnet hfetch).resolve_left hforeign
  · intro h
    refine ⟨?_, h.2.badValue.foreign⟩
    rw [fetchOk_result, fetch_of_isLost h]

/-- The site `nowhere` gives a reply to every request, and a fetch is lost there at once. -/
theorem nowhere_loses_fetch : nowhere.Orderly
    ∧ IsLost nowhere ⟨0, .whole 0, .whole 1, 1, "gleaner"⟩ "http://a" [] (.start ())
      (.badValue "Invalid IPv6 URL") := by
  have hnet : nowhere.Orderly := fun _ _ _ h => nomatch h
  obtain ⟨hiff, -, -⟩ := fetch_failures nowhere ⟨0, .whole 0, .whole 1, 1, "gleaner"⟩ "http://a" []
    (.start ()) hnet (.badValue "Invalid IPv6 URL")
  refine ⟨hnet, hiff.mp ⟨by rfl, ?_⟩⟩
  exact (Fault.IsBadValue.foreign ⟨_, rfl⟩).1

/-- All requests are answered by replies, and the fault is neither one of fetching nor a
    status. -/
theorem stray_location_escapes :
    (∀ r s, ∃ reply, (nowhere r s).1 = .reply reply)
      ∧ ∃ e, (fetch nowhere ⟨0, .whole 0, .whole 1, 1, "gleaner"⟩ "http://a" [] (.start ())).1
        = .error e
        ∧ (fetchOk nowhere ⟨0, .whole 0, .whole 1, 1, "gleaner"⟩ "http://a" [] (.start ())).1
          = .error e
        ∧ ¬ e.IsOfFetch ∧ ¬ e.IsStatus := by
  refine ⟨fun r s => ⟨_, rfl⟩, .badValue "Invalid IPv6 URL", by rfl, by rfl, ?_⟩
  exact Fault.IsBadValue.foreign ⟨_, rfl⟩

end Fetching

end Gleaner
