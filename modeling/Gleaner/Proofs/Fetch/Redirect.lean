/-
  Gleaner/Proofs/Fetch/Redirect.lean
  ==================================
  **Chains of redirects.**  On any network the replies for an address lead on from one
  address to the next while they redirect (`Leads`).  A fetch goes along this chain, one
  request at least and a bounded number of repetitions for each address, until a reply
  stays where it is, a hop fails, a location leads nowhere, or one redirect more was met
  than is allowed (`fetch_follows_redirects`).

  Where a reply leads is worked out before the bound is looked at, so a location that leads
  nowhere is the fault also where it would not have been followed
  (`last_location_hides_limit`).
-/
import Gleaner.Fetch.Retrieve
import Gleaner.Proofs.Fetch.Log

namespace Gleaner

variable {σ α : Type}

/-! ### The requests among events -/

namespace Session

def requests (s : Session σ) : List Request := Event.requests s.events

theorem requests_note (s : Session σ) (e : Event) :
    (s.note e).requests = s.requests ++ Event.requests [e] :=
  List.filterMap_append

theorem requests_ask (net : Network σ) (r : Request) (s : Session σ) :
    (ask net r s).2.requests = s.requests ++ [r] :=
  List.filterMap_append

end Session

namespace Fetching

variable {net : Network σ} {p : FetchPolicy} {headers : List (String × String)}

theorem ask_bind (net : Network σ) (r : Request) (k : Outcome → Fetching σ α) (s : Session σ) :
    (ask net r >>= k) s = k (net r s.network).1 (Session.ask net r s).2 := rfl

theorem happen_bind (e : Event) (k : Unit → Fetching σ α) (s : Session σ) :
    (happen e >>= k) s = k () (s.note e) := rfl

/-- An outcome other than a failure of the network is the end of it. -/
theorem requests_conclude {r : Request} {failed : String → String → Fetching σ Reply}
    {s : Session σ} {Φ : List Request → Prop} (outcome : Outcome) (hends : Φ s.requests)
    (hfailed : ∀ label m, Φ (failed label m s).2.requests) :
    Φ (conclude r failed outcome s).2.requests := by
  cases outcome with
  | failed label m => exact hfailed label m
  | reply reply => exact hends
  | unsupported m => exact hends
  | malformed m => exact hends
  | fault f => exact hends

/-- Some requests come to so many of one and the same after those before. -/
def Repeats (before : List Request) (r : Request) (most : Nat) (requests : List Request) : Prop :=
  ∃ tries, 1 ≤ tries ∧ tries ≤ most ∧ requests = before ++ List.replicate tries r

theorem Repeats.once (before : List Request) (r : Request) (more : Nat) :
    Repeats before r (more + 1) (before ++ [r]) :=
  ⟨1, Nat.le_refl 1, Nat.le_add_left 1 more, rfl⟩

theorem Repeats.again {before requests : List Request} {r : Request} {most : Nat}
    (h : Repeats (before ++ [r]) r most requests) : Repeats before r (most + 1) requests := by
  obtain ⟨tries, -, hmost, hrequests⟩ := h
  refine ⟨tries + 1, Nat.le_add_left 1 tries, Nat.succ_le_succ hmost, ?_⟩
  rw [hrequests, List.replicate_succ, List.append_assoc]
  rfl

/-- One hop asks for one thing only, at least once and no more often than it may. -/
theorem repeats_attempts (net : Network σ) (p : FetchPolicy) (r : Request) (left attempt : Nat)
    (s : Session σ) :
    Repeats s.requests r (left + 1) (attempts net p r left attempt s).2.requests := by
  induction left generalizing attempt s with
  | zero =>
    unfold attempts
    rw [ask_bind]
    have hasked := Repeats.once s.requests r 0
    rw [← Session.requests_ask net] at hasked
    refine requests_conclude _ hasked fun label m => ?_
    rw [notice, happen_bind, throw_run, Session.requests_note]
    exact (List.append_nil _).symm ▸ hasked
  | succ left ih =>
    unfold attempts
    rw [ask_bind]
    refine requests_conclude _ ?_ fun label m => ?_
    · rw [Session.requests_ask]
      exact Repeats.once s.requests r (left + 1)
    · rw [notice, happen_bind, happen_bind]
      -- the lines and the pause before the next attempt are no requests
      have hagain :=
        ih (attempt + 1) (((Session.ask net r s).2.note (.notice (retryLine p r.url attempt))).note
        (.pause (p.delay attempt)))
      rw [Session.requests_note, Session.requests_note, Session.requests_ask] at hagain
      exact Repeats.again (by simpa [Event.requests] using hagain)

/-! ### Chains of redirects -/

/-- From an address on, one reply after another redirects to the next address, as far as
    `last`; these are the addresses that redirect. -/
inductive Leads (net : Network σ) (p : FetchPolicy) (headers : List (String × String)) :
    String → Session σ → List String → String → Session σ → Prop
  | here (url : String) (s : Session σ) : Leads net p headers url s [] url s
  | on {url next last location : String} {reply : Reply} {s s' t : Session σ}
      {visited : List String}
      (hhop : hop net p headers url s = (.ok reply, s'))
      (hredirects : redirection? reply = some location)
      (hnext : Url.redirectTarget url location = .ok next)
      (hrest : Leads net p headers next s' visited last t) :
      Leads net p headers url s (url :: visited) last t

def tooManyRedirects (limit : Int) (start : String) : Fault :=
  .transport ("Too many redirects (more than " ++ toString limit ++ ")") (some start)

/-- How a fetch ends that was led to `last` by so many redirects and may ask for `hops`
    addresses: the addresses that it still asks for, one or none, its result, and the
    session after it. -/
inductive Ends (net : Network σ) (p : FetchPolicy) (headers : List (String × String))
    (start : String) (hops redirects : Nat) (last : String) (s : Session σ) :
    List String → Except Fault Reply → Session σ → Prop
  /-- The reply stays where it is, whatever its status. -/
  | arrived {reply : Reply} {t : Session σ} (hmore : redirects < hops)
      (hhop : hop net p headers last s = (.ok reply, t)) (hstays : redirection? reply = none) :
      Ends net p headers start hops redirects last s [last] (.ok reply) t
  | failed {e : Fault} {t : Session σ} (hmore : redirects < hops)
      (hhop : hop net p headers last s = (.error e, t)) :
      Ends net p headers start hops redirects last s [last] (.error e) t
  /-- The location of the reply leads nowhere. -/
  | lost {reply : Reply} {location : String} {e : Fault} {t : Session σ} (hmore : redirects < hops)
      (hhop : hop net p headers last s = (.ok reply, t))
      (hredirects : redirection? reply = some location)
      (hnext : Url.redirectTarget last location = .error e) :
      Ends net p headers start hops redirects last s [last] (.error e) t
  | exhausted (hnone : redirects = hops) :
      Ends net p headers start hops redirects last s []
        (.error (tooManyRedirects p.maxRedirects start)) s

section Chain

variable {net : Network σ} {p : FetchPolicy} {headers : List (String × String)}
  {start url last : String} {hops redirects : Nat} {s t : Session σ} {visited asked : List String}
  {result : Except Fault Reply}

/-- One redirect more may be followed with one hop more; how the fetch ends is the same. -/
theorem Ends.succ (h : Ends net p headers start hops redirects last s asked result t) :
    Ends net p headers start (hops + 1) (redirects + 1) last s asked result t := by
  cases h with
  | arrived hmore hhop hstays => exact .arrived (Nat.succ_lt_succ hmore) hhop hstays
  | failed hmore hhop => exact .failed (Nat.succ_lt_succ hmore) hhop
  | lost hmore hhop hredirects hnext => exact .lost (Nat.succ_lt_succ hmore) hhop hredirects hnext
  | exhausted hnone => exact .exhausted (congrArg Nat.succ hnone)

theorem Ends.of_succ
    (h : Ends net p headers start (hops + 1) (redirects + 1) last s asked result t) :
    Ends net p headers start hops redirects last s asked result t := by
  cases h with
  | arrived hmore hhop hstays => exact .arrived (Nat.lt_of_succ_lt_succ hmore) hhop hstays
  | failed hmore hhop => exact .failed (Nat.lt_of_succ_lt_succ hmore) hhop
  | lost hmore hhop hredirects hnext =>
      exact .lost (Nat.lt_of_succ_lt_succ hmore) hhop hredirects hnext
  | exhausted hnone => exact .exhausted (Nat.succ.inj hnone)

/-- A fetch is led somewhere and ends there. -/
theorem follow_leads (net : Network σ) (p : FetchPolicy) (headers : List (String × String))
    (start : String) (hops : Nat) (url : String) (s : Session σ) : ∃ visited last s' asked,
      Leads net p headers url s visited last s'
        ∧ Ends net p headers start hops visited.length last s' asked
          (follow net p headers start hops url s).1 (follow net p headers start hops url s).2 := by
  induction hops generalizing url s with
  | zero => exact ⟨[], url, s, [], .here url s, .exhausted rfl⟩
  | succ hops ih =>
    unfold follow
    rw [bind_run]
    rcases hhop : hop net p headers url s with ⟨_ | reply, s'⟩
    · next e => exact ⟨[], url, s, [url], .here url s, .failed (Nat.succ_pos _) hhop⟩
    · dsimp only
      cases hredirects : redirection? reply with
      | none => exact ⟨[], url, s, [url], .here url s, .arrived (Nat.succ_pos _) hhop hredirects⟩
      | some location =>
        dsimp only
        rw [bind_run]
        cases hnext : Url.redirectTarget url location with
        | error e =>
            exact ⟨[], url, s, [url], .here url s, .lost (Nat.succ_pos _) hhop hredirects hnext⟩
        | ok next =>
          obtain ⟨visited, last, s'', asked, hleads, hends⟩ := ih next s'
          exact ⟨url :: visited, last, s'', asked, .on hhop hredirects hnext hleads, hends.succ⟩

/-- The hops that a fetch may make bound the redirects and what is asked after them. -/
theorem Ends.within (h : Ends net p headers start hops redirects last s asked result t) :
    redirects + asked.length ≤ hops := by
  cases h with
  | arrived hmore hhop hstays => exact hmore
  | failed hmore hhop => exact hmore
  | lost hmore hhop hredirects hnext => exact hmore
  | exhausted hnone => exact Nat.le_of_eq hnone

/-- Where a fetch is led and how it ends there is what comes of it. -/
theorem Leads.follow_eq {s' : Session σ} (h : Leads net p headers url s visited last s')
    (hends : Ends net p headers start hops visited.length last s' asked result t) :
    follow net p headers start hops url s = (result, t) := by
  induction h generalizing hops with
  | here url s =>
    cases hops with
    | zero =>
      cases hends with
      | exhausted hnone => rfl
      | _ => contradiction
    | succ hops =>
      unfold follow
      rw [bind_run]
      cases hends with
      | arrived hmore hhop hstays =>
        rw [hhop]
        dsimp only
        rw [hstays]
        rfl
      | failed hmore hhop => rw [hhop]
      | lost hmore hhop hredirects hnext =>
        rw [hhop]
        dsimp only
        rw [hredirects]
        dsimp only
        rw [hnext]
        rfl
      | exhausted hnone => cases hnone
  | on hhop hredirects hnext hrest ih =>
    cases hops with
    | zero =>
      have hnone := hends.within
      simp at hnone
    | succ hops =>
      unfold follow
      rw [bind_run, hhop]
      dsimp only
      rw [hredirects]
      dsimp only
      rw [hnext]
      exact ih hends.of_succ

/-! ### The requests of a chain -/

/-- The requests for addresses one after another, each asked for once or more often, up to
    `most` times. -/
inductive Asks (most : Nat) (request : String → Request) : List String → List Request → Prop
  | done : Asks most request [] []
  | ask {tries : Nat} {url : String} {urls : List String} {requests : List Request}
      (hpos : 1 ≤ tries)
      (hmost : tries ≤ most) (hrest : Asks most request urls requests) :
      Asks most request (url :: urls) (List.replicate tries (request url) ++ requests)

/-- No more requests are made than hops and repetitions allow. -/
theorem Asks.length_le {most : Nat} {request : String → Request} {urls : List String}
    {requests : List Request} (h : Asks most request urls requests) :
    requests.length ≤ urls.length * most := by
  induction h with
  | done => exact Nat.zero_le _
  | ask hpos hmost hrest ih =>
    rw [List.length_append, List.length_replicate, List.length_cons, Nat.succ_mul]
    omega

theorem Asks.mem {most : Nat} {request : String → Request} {urls : List String}
    {requests : List Request} (h : Asks most request urls requests) :
    ∀ r ∈ requests, ∃ url ∈ urls, r = request url := by
  induction h with
  | done => simp
  | ask hpos hmost hrest ih =>
    intro r hr
    rcases List.mem_append.mp hr with hr | hr
    · exact ⟨_, by simp, (List.mem_replicate.mp hr).2⟩
    · obtain ⟨url, hurl, hrequest⟩ := ih r hr
      exact ⟨url, by simp [hurl], hrequest⟩

/-- Between two sessions the addresses are asked for one after another, always with the same
    headers and the same time to wait. -/
def Requested (p : FetchPolicy) (headers : List (String × String)) (urls : List String)
    (s t : Session σ) : Prop :=
  ∃ requests, t.requests = s.requests ++ requests
    ∧ Asks (p.retries.toNat + 1) (fun url => ⟨url, headers, p.timeout⟩) urls requests

theorem Requested.none (p : FetchPolicy) (headers : List (String × String)) (s : Session σ) :
    Requested p headers [] s s :=
  ⟨[], (List.append_nil _).symm, .done⟩

/-- After the requests for one address come those for others. -/
theorem Requested.after_hop {x : Except Fault Reply} {s' : Session σ} {urls : List String}
    (h : hop net p headers url s = (x, s')) (hrest : Requested p headers urls s' t) :
    Requested p headers (url :: urls) s t := by
  have hrepeats := repeats_attempts net p ⟨url, headers, p.timeout⟩ p.retries.toNat 1 s
  unfold hop at h
  rw [h] at hrepeats
  obtain ⟨tries, hpos, hmost, hrequests⟩ := hrepeats
  obtain ⟨requests, ht, hasks⟩ := hrest
  exact ⟨_, by rw [ht, hrequests, List.append_assoc], .ask hpos hmost hasks⟩

/-- Whatever a fetch asks, it asks with the same headers and the same time to wait. -/
theorem Ends.requested (h : Ends net p headers start hops redirects last s asked result t) :
    Requested p headers asked s t := by
  cases h with
  | arrived hmore hhop hstays => exact .after_hop hhop (.none p headers t)
  | failed hmore hhop => exact .after_hop hhop (.none p headers t)
  | lost hmore hhop hredirects hnext => exact .after_hop hhop (.none p headers t)
  | exhausted hnone => exact .none p headers s

theorem Leads.requested {s' : Session σ} (h : Leads net p headers url s visited last s')
    (hends : Ends net p headers start hops redirects last s' asked result t) :
    Requested p headers (visited ++ asked) s t := by
  induction h with
  | here url s => exact hends.requested
  | on hhop hredirects hnext hrest ih => exact .after_hop hhop (ih hends)

end Chain

/-! ### Fetches -/

/-- What a fetch comes to is what its chain of redirects leads to and how it ends there:
    with the first reply that does not redirect, with a fault, or because all of the replies
    that it may ask for redirect.  It asks for the addresses of the chain and for nothing
    else, and the number of its requests is bounded. -/
theorem fetch_follows_redirects (net : Network σ) (p : FetchPolicy) (url : String)
    (extra : List (String × String)) (s : Session σ) {limit : Nat} (hlimit : p.maxRedirects = limit)
    (hurl : Text.trim url ≠ "") :
    (∀ result t, fetch net p url extra s = (result, t) ↔ ∃ visited last s' asked t',
      Leads net p (p.headers extra) (Text.trim url) s visited last s'
        ∧ Ends net p (p.headers extra) (Text.trim url) (limit + 1) visited.length last s'
          asked result t'
        ∧ Requested p (p.headers extra) (visited ++ asked) s t'
        ∧ t = t'.note (.fetched ⟨url, extra, result⟩))
      ∧ ∃ requests, (fetch net p url extra s).2.requests = s.requests ++ requests
        ∧ requests.length ≤ (limit + 1) * (p.retries.toNat + 1)
        ∧ ∀ r ∈ requests, r.headers = p.headers extra ∧ r.timeout = p.timeout := by
  have hhops : (p.maxRedirects + 1).toNat = limit + 1 := by omega
  have hretrieve : retrieve net p url extra
      = follow net p (p.headers extra) (Text.trim url) (limit + 1) (Text.trim url) := by
    unfold retrieve
    rw [if_neg hurl, hhops]
  obtain ⟨visited, last, s', asked, hleads, hends⟩ :=
    follow_leads net p (p.headers extra) (Text.trim url) (limit + 1) (Text.trim url) s
  unfold fetch noted
  rw [hretrieve]
  rcases hrun : follow net p (p.headers extra) (Text.trim url) (limit + 1) (Text.trim url) s
    with ⟨x, t₀⟩
  rw [hrun] at hends
  have hrequested := hleads.requested hends
  constructor
  · intro result t
    dsimp only
    rw [Prod.mk.injEq]
    constructor
    · rintro ⟨rfl, rfl⟩
      exact ⟨visited, last, s', asked, t₀, hleads, hends, hrequested, rfl⟩
    · rintro ⟨visited', last', s'', asked', t', hleads', hends', -, rfl⟩
      rw [hleads'.follow_eq hends', Prod.mk.injEq] at hrun
      obtain ⟨rfl, rfl⟩ := hrun
      exact ⟨rfl, rfl⟩
  · obtain ⟨requests, hrequests, hasks⟩ := hrequested
    refine ⟨requests, ?_, ?_, ?_⟩
    · dsimp only
      rw [Session.requests_note, hrequests]
      exact List.append_nil _
    · refine Nat.le_trans hasks.length_le (Nat.mul_le_mul_right _ ?_)
      rw [List.length_append]
      exact hends.within
    · intro r hr
      obtain ⟨address, -, rfl⟩ := hasks.mem r hr
      exact ⟨rfl, rfl⟩

/-- A site that redirects from one page to another, which is missing. -/
def detour : Network Unit := fun r s =>
  (.reply (if r.url = "http://a" then ⟨r.url, 301, [], [("location", "/b")]⟩ else
    ⟨r.url, 404, [], []⟩), s)

/-- As many redirects as are allowed lead to a reply, whatever its status. -/
theorem detour_arrives : ∃ visited last s' asked t',
    Leads detour ⟨0, .whole 0, .whole 1, 1, "gleaner"⟩ [("User-Agent", "gleaner")]
      "http://a" (.start ()) visited last s'
      ∧ Ends detour ⟨0, .whole 0, .whole 1, 1, "gleaner"⟩ [("User-Agent", "gleaner")] "http://a" 2
        visited.length last s' asked (.ok ⟨"http://a/b", 404, [], []⟩) t' := by
  have hresult : (fetch detour ⟨0, .whole 0, .whole 1, 1, "gleaner"⟩ " http://a" [] (.start ())).1
      = .ok ⟨"http://a/b", 404, [], []⟩ := by rfl
  have hchain :=
    (fetch_follows_redirects detour ⟨0, .whole 0, .whole 1, 1, "gleaner"⟩ " http://a" []
    (.start ()) rfl (by decide)).1
  obtain ⟨visited, last, s', asked, t', hleads, hends, -, -⟩ :=
    (hchain _ _).mp (Prod.ext hresult rfl)
  exact ⟨visited, last, s', asked, t', hleads, hends⟩

/-- A site that redirects to an address which cannot be taken apart. -/
def nowhere : Network Unit := fun r s => (.reply ⟨r.url, 302, [], [("location", "http://[")]⟩, s)

/-- No redirect is allowed and there is one, but the fault is another. -/
theorem last_location_hides_limit :
    (∃ reply t, hop nowhere ⟨0, .whole 0, .whole 1, 0, "gleaner"⟩
      [("User-Agent", "gleaner")] "http://a"
        (.start ()) = (.ok reply, t) ∧ redirection? reply = some "http://[")
      ∧ (fetch nowhere ⟨0, .whole 0, .whole 1, 0, "gleaner"⟩ "http://a" [] (.start ())).1
        = .error (.badValue "Invalid IPv6 URL")
      ∧ (fetch nowhere ⟨0, .whole 0, .whole 1, 0, "gleaner"⟩ "http://a" [] (.start ())).1
        ≠ .error (tooManyRedirects 0 "http://a") := by
  have hresult : (fetch nowhere ⟨0, .whole 0, .whole 1, 0, "gleaner"⟩ "http://a" [] (.start ())).1
      = .error (.badValue "Invalid IPv6 URL") := by rfl
  refine ⟨⟨⟨"http://a", 302, [], [("location", "http://[")]⟩, _, rfl, rfl⟩, hresult, ?_⟩
  rw [hresult]
  simp [tooManyRedirects]

end Fetching

end Gleaner
