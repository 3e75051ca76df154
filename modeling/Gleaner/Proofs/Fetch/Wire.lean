/-
  Gleaner/Proofs/Fetch/Wire.lean
  ==============================
  **What a server is asked first.**  Between a fetch and a server stand the rules of the
  wire, and a request that they do not admit never gets there.  So the first thing that a
  server hears of a fetch is the address itself, trimmed and in the form of the wire
  (`opens_fetch`), or it hears nothing and the fetch fails (`refused_fetch`).  The same goes
  for a call that reads the books on a page.

  `Server.recorded` keeps what it was asked, so that there is something to compare with.
-/
import Gleaner.Client
import Gleaner.Fetch.Wire
import Gleaner.Proofs.Fetch.Retry

namespace Gleaner

variable {σ α β : Type}

/-- A server that also keeps what it was asked, in order. -/
def Server.recorded (server : Server σ) : Server (σ × List WireRequest) := fun r state =>
  let (outcome, next) := server r state.1
  (outcome, (next, state.2 ++ [r]))

/-! ### Requests that are admitted -/

/-- The outcome turns a request away; asking again is no use. -/
inductive Outcome.TurnsAway : Outcome → Prop
  | unsupported (m : String) : TurnsAway (.unsupported m)
  | malformed (m : String) : TurnsAway (.malformed m)
  | fault (f : Fault) : TurnsAway (.fault f)

theorem Outcome.TurnsAway.settled {o : Outcome} (h : o.TurnsAway) (url : String) :
    ¬ o.IsFailure ∧ ∃ e, Fetching.settledHop url o = .error e := by
  constructor
  · rintro ⟨label, m, rfl⟩
    cases h
  · cases h <;> exact ⟨_, rfl⟩

namespace Wire

/-- The rules of the wire admit a request under this address: it is what the address of the
    request reads as, it tells a server, and the headers are ASCII. -/
structure Admits (r : Request) (address : Url.Wire) : Prop where
  form : Url.Wire.ofChars r.url.toList = .ok address
  headers : headerFault? r.headers = none
  server : address.refusal? = none

def sent (r : Request) (address : Url.Wire) : WireRequest :=
  ⟨address.text, requestHeaders address r.headers⟩

section
variable {server : Server σ} {r : Request} {address : Url.Wire}

/-- Nothing is asked for no address. -/
theorem Admits.url_ne_empty (h : Admits r address) : r.url ≠ "" := by
  intro hempty
  have hnowhere : Url.Wire.ofChars "".toList = .ok ⟨[], [], [], none, [], none, none⟩ := by cbv
  have hform := h.form
  rw [hempty, hnowhere] at hform
  obtain rfl := Except.ok.inj hform
  exact absurd h.server (by decide)

/-- A request that the wire admits is kept by the server. -/
theorem Admits.recorded (h : Admits r address) (state : σ × List WireRequest) :
    (overWire server.recorded r state).2.2 = state.2 ++ [sent r address] := by
  unfold overWire
  rw [h.form]
  dsimp only
  rw [h.headers]
  dsimp only
  rw [h.server]
  dsimp only [Server.recorded]
  cases (server ⟨address.text, requestHeaders address r.headers⟩ state.1).1 <;> rfl

/-- The reply of the server is handed on for a request that the wire admits. -/
theorem Admits.replied (h : Admits r address) {state next : σ} {reply : Reply}
    (hreply : server (sent r address) state = (.reply reply, next)) :
    overWire server r state = (received address.text reply, next) := by
  unfold overWire
  rw [h.form]
  dsimp only
  rw [h.headers]
  dsimp only
  rw [h.server]
  dsimp only
  rw [sent] at hreply
  rw [hreply]

/-- A request that is not admitted is turned away and leaves the server alone. -/
theorem overWire_of_not_admits (server : Server σ) (h : ¬ ∃ address, Admits r address) (state : σ) :
    (overWire server r state).1.TurnsAway ∧ (overWire server r state).2 = state := by
  unfold overWire
  cases hform : Url.Wire.ofChars r.url.toList with
  | error problem => exact ⟨.malformed _, rfl⟩
  | ok address =>
    dsimp only
    cases hheaders : headerFault? r.headers with
    | some f => exact ⟨.fault f, rfl⟩
    | none =>
      dsimp only
      cases hserver : address.refusal? with
      | some reason => exact ⟨.unsupported reason, rfl⟩
      | none => exact absurd ⟨address, hform, hheaders, hserver⟩ h

end

end Wire

/-! ### Work that asks a server -/

namespace Fetching

def Grows (work : Fetching (σ × List WireRequest) α) : Prop :=
  ∀ s, ∃ more, (work s).2.network.2 = s.network.2 ++ more

def Opens (work : Fetching (σ × List WireRequest) α) (w : WireRequest) : Prop :=
  ∀ s, ∃ more, (work s).2.network.2 = s.network.2 ++ w :: more

def Refused (work : Fetching σ α) : Prop :=
  ∀ s, (work s).2.network = s.network ∧ ∃ e, (work s).1 = .error e

section Rules

variable {x : Fetching (σ × List WireRequest) α} {k : α → Fetching (σ × List WireRequest) β}
  {w : WireRequest}

theorem Grows.of_network (h : ∀ s, (x s).2.network = s.network) : Grows x :=
  fun s => ⟨[], by rw [h, List.append_nil]⟩

theorem Grows.pure (a : α) : Grows (pure a : Fetching (σ × List WireRequest) α) :=
  .of_network fun _ => rfl

theorem Grows.throw (e : Fault) : Grows (throw e : Fetching (σ × List WireRequest) α) :=
  .of_network fun _ => rfl

theorem Grows.happen (e : Event) : Grows (happen e : Fetching (σ × List WireRequest) Unit) :=
  .of_network fun _ => rfl

theorem Grows.ofResult (x : Except Fault α) :
    Grows (ofResult x : Fetching (σ × List WireRequest) α) := by
  cases x with
  | ok a => exact .pure a
  | error e => exact .throw e

theorem Grows.bind (hx : Grows x) (hk : ∀ a, Grows (k a)) : Grows (x >>= k) := by
  intro s
  obtain ⟨sent, hsent⟩ := hx s
  rw [bind_run]
  rcases hrun : x s with ⟨e | a, s'⟩
  · rw [hrun] at hsent
    exact ⟨sent, hsent⟩
  · rw [hrun] at hsent
    obtain ⟨more, hmore⟩ := hk a s'
    exact ⟨sent ++ more, by rw [hmore, hsent, List.append_assoc]⟩

/-- What comes later does not change what was first. -/
theorem Opens.bind (hx : Opens x w) (hk : ∀ a, Grows (k a)) : Opens (x >>= k) w := by
  intro s
  obtain ⟨sent, hsent⟩ := hx s
  rw [bind_run]
  rcases hrun : x s with ⟨e | a, s'⟩
  · rw [hrun] at hsent
    exact ⟨sent, hsent⟩
  · rw [hrun] at hsent
    obtain ⟨more, hmore⟩ := hk a s'
    exact ⟨sent ++ more, by rw [hmore, hsent, List.append_assoc, List.cons_append]⟩

theorem Refused.throw (e : Fault) : Refused (throw e : Fetching σ α) := fun _ => ⟨rfl, e, rfl⟩

theorem Refused.bind {x : Fetching σ α} {k : α → Fetching σ β} (hx : Refused x) :
    Refused (x >>= k) := by
  intro s
  obtain ⟨hnetwork, e, he⟩ := hx s
  rw [bind_run]
  rcases hrun : x s with ⟨e' | a, s'⟩
  · rw [hrun] at hnetwork
    exact ⟨hnetwork, e', rfl⟩
  · rw [hrun] at he
    cases he

end Rules

/-! ### Fetching over the wire -/

section Wire

variable {server : Server σ} {p : FetchPolicy} {r : Request} {address : Url.Wire}

theorem grows_ask (server : Server σ) (r : Request) :
    Grows (ask (Wire.overWire server.recorded) r) := by
  by_cases h : ∃ address, Wire.Admits r address
  · obtain ⟨address, h⟩ := h
    exact fun s => ⟨_, h.recorded s.network⟩
  · exact .of_network fun s => (Wire.overWire_of_not_admits _ h s.network).2

theorem grows_conclude {failed : String → String → Fetching (σ × List WireRequest) Reply}
    (h : ∀ label m, Grows (failed label m)) (outcome : Outcome) :
    Grows (conclude r failed outcome) := by
  cases outcome with
  | reply reply => exact .pure reply
  | unsupported m => exact .throw _
  | malformed m => exact .throw _
  | fault f => exact .throw f
  | failed label m => exact h label m

theorem grows_attempts (server : Server σ) (p : FetchPolicy) (r : Request) :
    ∀ left attempt, Grows (attempts (Wire.overWire server.recorded) p r left attempt) := by
  intro left
  induction left with
  | zero =>
    intro attempt
    refine (grows_ask server r).bind (grows_conclude fun label m => ?_)
    exact (Grows.happen _).bind fun _ => .throw _
  | succ left ih =>
    intro attempt
    refine (grows_ask server r).bind (grows_conclude fun label m => ?_)
    exact (Grows.happen _).bind fun _ => (Grows.happen _).bind fun _ => ih (attempt + 1)

theorem opens_attempts (h : Wire.Admits r address) (left attempt : Nat) :
    Opens (attempts (Wire.overWire server.recorded) p r left attempt) (Wire.sent r address) := by
  have hask : Opens (ask (Wire.overWire server.recorded) r) (Wire.sent r address) :=
    fun s => ⟨[], h.recorded s.network⟩
  cases left with
  | zero =>
    refine hask.bind (grows_conclude fun label m => ?_)
    exact (Grows.happen _).bind fun _ => .throw _
  | succ left =>
    refine hask.bind (grows_conclude fun label m => ?_)
    exact (Grows.happen _).bind fun _ => (Grows.happen _).bind fun _ =>
      grows_attempts server p r left (attempt + 1)

/-- The log of the server grows along a chain of redirects, by induction on the hops. -/
theorem grows_follow (server : Server σ) (p : FetchPolicy) (headers : List (String × String))
    (start : String) :
    ∀ hops current,
      Grows (follow (Wire.overWire server.recorded) p headers start hops current) := by
  intro hops
  induction hops with
  | zero => intro current; exact .throw _
  | succ hops ih =>
    intro current
    unfold follow
    refine (grows_attempts server p _ _ 1).bind fun reply => ?_
    cases redirection? reply with
    | none => exact .pure reply
    | some location => exact (Grows.ofResult _).bind fun next => ih next

theorem refused_attempts {server : Server σ} (h : ¬ ∃ address, Wire.Admits r address)
    (left attempt : Nat) :
    Refused (attempts (Wire.overWire server) p r left attempt) := by
  intro s
  obtain ⟨haway, hnetwork⟩ := Wire.overWire_of_not_admits server h s.network
  obtain ⟨hends, he⟩ := haway.settled r.url
  rw [attempts_of_not_failure hends]
  exact ⟨hnetwork, he⟩

/-! ### Fetches -/

variable {url : String} {extra : List (String × String)}

def firstRequest (p : FetchPolicy) (url : String) (extra : List (String × String)) : Request :=
  ⟨Text.trim url, p.headers extra, p.timeout⟩

theorem fetch_network (net : Network σ) (p : FetchPolicy) (url : String)
    (extra : List (String × String)) (s : Session σ) :
    (fetch net p url extra s).2.network = (retrieve net p url extra s).2.network := by
  unfold fetch noted
  rcases retrieve net p url extra s with ⟨result, s'⟩
  rfl

/-- A fetch that has an address asks for that address before it follows a redirect. -/
theorem retrieve_eq_hop (net : Network σ) (hurl : Text.trim url ≠ "")
    (hlimit : 0 ≤ p.maxRedirects) :
    retrieve net p url extra = (do
      let reply ← hop net p (p.headers extra) (Text.trim url)
      match redirection? reply with
      | none => return reply
      | some location =>
          let next ← ofResult (Url.redirectTarget (Text.trim url) location)
          follow net p (p.headers extra) (Text.trim url) p.maxRedirects.toNat next) := by
  have hhops : (p.maxRedirects + 1).toNat = p.maxRedirects.toNat + 1 := by omega
  unfold retrieve
  dsimp only
  rw [if_neg hurl, hhops]
  rfl

/-- A fetch opens with its own address, if it may ask at all and the wire admits the
    request. -/
theorem opens_fetch (hlimit : 0 ≤ p.maxRedirects)
    (h : Wire.Admits (firstRequest p url extra) address) :
    Opens (fetch (Wire.overWire server.recorded) p url extra)
      (Wire.sent (firstRequest p url extra) address) := by
  have hretrieve : Opens (retrieve (Wire.overWire server.recorded) p url extra)
      (Wire.sent (firstRequest p url extra) address) := by
    rw [retrieve_eq_hop _ h.url_ne_empty hlimit]
    refine (opens_attempts h _ 1).bind fun reply => ?_
    cases redirection? reply with
    | none => exact .pure reply
    | some location => exact (Grows.ofResult _).bind fun next => grows_follow server p _ _ _ next
  intro s
  rw [fetch_network]
  exact hretrieve s

/-- A fetch that may not ask, or that the wire does not admit, never reaches the server. -/
theorem refused_fetch
    (h : ¬ (0 ≤ p.maxRedirects ∧ ∃ address, Wire.Admits (firstRequest p url extra) address)) :
    Refused (fetch (Wire.overWire server) p url extra) := by
  have hretrieve : Refused (retrieve (Wire.overWire server) p url extra) := by
    unfold retrieve
    dsimp only
    by_cases hurl : Text.trim url = ""
    · rw [if_pos hurl]
      exact .throw _
    · rw [if_neg hurl]
      cases hhops : (p.maxRedirects + 1).toNat with
      | zero => exact .throw _
      | succ hops =>
        have hnone : ¬ ∃ address, Wire.Admits (firstRequest p url extra) address :=
          fun hsome => h ⟨by omega, hsome⟩
        rw [follow]
        exact Refused.bind (refused_attempts hnone _ 1)
  intro s
  rw [fetch_network, fetch_result]
  exact hretrieve s

theorem opens_fetchOk (hlimit : 0 ≤ p.maxRedirects)
    (h : Wire.Admits (firstRequest p url extra) address) :
    Opens (fetchOk (Wire.overWire server.recorded) p url extra)
      (Wire.sent (firstRequest p url extra) address) := by
  refine (opens_fetch hlimit h).bind fun reply => ?_
  split
  · exact .pure reply
  · exact .throw _

/-- An address whose reply stays where it is comes to that reply. -/
theorem settled_fetchOk {net : Network σ} {reply : Reply} (hurl : Text.trim url ≠ "")
    (hlimit : 0 ≤ p.maxRedirects)
    (hreply : ∀ state, (net (firstRequest p url extra) state).1 = .reply reply)
    (hstays : redirection? reply = none) (hok : reply.isOk = true) :
    Settled (fetchOk net p url extra) (.ok reply) := by
  have hhop : Settled (hop net p (p.headers extra) (Text.trim url)) (.ok reply) := by
    intro s
    have hends : ¬ (net (firstRequest p url extra) s.network).1.IsFailure := by
      rw [hreply]
      rintro ⟨_, _, hfailed⟩
      cases hfailed
    refine (congrArg Prod.fst (attempts_of_not_failure hends)).trans ?_
    rw [hreply]
    rfl
  have hfetch : Settled (fetch net p url extra) (.ok reply) := by
    intro s
    rw [fetch_result, retrieve_eq_hop net hurl hlimit]
    refine (hhop.bind ?_) s
    rw [hstays]
    exact .pure reply
  refine hfetch.bind ?_
  rw [if_pos hok]
  exact .pure reply

end Wire

end Fetching

/-! ### Lists of books -/

namespace Client

open Fetching (Grows Opens Refused firstRequest)

variable {server : Server σ} {p : FetchPolicy} {s : Source} {url : String}
  {headers : List (String × String)} {address : Url.Wire}

theorem grows_receive (body : Body) :
    Grows (Page.receive body : Fetching (σ × List WireRequest) Page) := by
  unfold Page.receive
  split
  · exact (Grows.happen _).bind fun _ => .ofResult _
  · exact .ofResult _

theorem grows_reportSkipped (failures : List (Nat × Fault)) :
    Grows (reportSkipped failures : Fetching (σ × List WireRequest) Unit) := by
  induction failures with
  | nil => exact .pure ()
  | cons failure failures ih => exact (Grows.happen _).bind fun _ => ih

/-- With headers that can be read, a page is loaded by a fetch. -/
theorem load_eq {c : Client σ} (h : s.requestHeaders = .ok headers) (url : String) :
    c.load s url = (do
    let reply ← Fetching.fetchOk c.network c.policy url headers
    let page ← Page.receive (.bytes reply.body)
    return (reply, page)) := by
  unfold load
  rw [h]
  exact pure_bind headers _

/-- Looking for books opens with the address of their page. -/
theorem opens_books (h : s.requestHeaders = .ok headers) (hlimit : 0 ≤ p.maxRedirects)
    (hadmits : Wire.Admits (firstRequest p url headers) address) (rules : ListRules) :
    Opens (books ⟨Wire.overWire server.recorded, p⟩ s url rules)
      (Wire.sent (firstRequest p url headers) address) := by
  unfold books
  rw [load_eq h]
  refine Opens.bind ((Fetching.opens_fetchOk hlimit hadmits).bind fun reply => ?_)
    fun (reply, page) => ?_
  · exact (grows_receive _).bind fun page => .pure (reply, page)
  · refine (Grows.ofResult _).bind fun harvest => ?_
    refine (grows_reportSkipped _).bind fun _ => ?_
    exact (Grows.ofResult _).bind fun books => (Grows.happen _).bind fun _ => .pure books

theorem refused_books (h : s.requestHeaders = .ok headers)
    (hrefused : ¬ (0 ≤ p.maxRedirects ∧ ∃ address,
      Wire.Admits (firstRequest p url headers) address))
    (rules : ListRules) : Refused (books ⟨Wire.overWire server, p⟩ s url rules) := by
  unfold books
  rw [load_eq h]
  exact (((Fetching.refused_fetch hrefused).bind).bind).bind

end Client

end Gleaner
