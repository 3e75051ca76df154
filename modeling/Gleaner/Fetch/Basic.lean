/-
  Gleaner/Fetch/Basic.lean
  ========================
  **Asking a network.**  A network is anything that answers one request at a time, and
  may change as it does.  A session is a network in some state with what has happened so
  far, in order: requests, whole fetches, lines for a person, pauses and lines of a trace.
-/
import Gleaner.Fetch.Reply
import Gleaner.Settings

namespace Gleaner

structure Request where
  url : String
  headers : List (String × String)
  /-- Seconds to wait for the reply. -/
  timeout : Seconds
deriving DecidableEq, Repr, Inhabited

inductive Outcome where
  | reply (r : Reply)
  /-- The network failed; another attempt may fare better. -/
  | failed (label message : String)
  /-- No server can be told from the address. -/
  | unsupported (message : String)
  | malformed (message : String)
  /-- Anything else. -/
  | fault (f : Fault)
deriving DecidableEq, Repr, Inhabited

/-- What answers requests, from a state that may change. -/
abbrev Network (σ : Type) := Request → σ → Outcome × σ

/-- One fetch: the address and the headers that were given for it, and what came of it. -/
structure FetchCall where
  url : String
  headers : List (String × String)
  result : Except Fault Reply
deriving Repr

instance : DecidableEq FetchCall
  | ⟨u, h, .ok r⟩, ⟨v, k, .ok q⟩ => decidable_of_iff (u = v ∧ h = k ∧ r = q) (by simp)
  | ⟨u, h, .error e⟩, ⟨v, k, .error f⟩ => decidable_of_iff (u = v ∧ h = k ∧ e = f) (by simp)
  | ⟨_, _, .ok _⟩, ⟨_, _, .error _⟩ => isFalse (by simp)
  | ⟨_, _, .error _⟩, ⟨_, _, .ok _⟩ => isFalse (by simp)

/-- Something that happens. -/
inductive Event where
  | asked (r : Request)
  | fetched (c : FetchCall)
  | notice (line : String)
  /-- A line about something that may have gone wrong. -/
  | warning (line : String)
  /-- A pause that is due.  It is recorded and not performed, so it cannot fail, whatever the
      number of seconds. -/
  | pause (seconds : Seconds)
  /-- A line of a trace, for who listens to it. -/
  | traced (line : String)
deriving DecidableEq, Repr

/-- The state of a network, and what has happened. -/
structure Session (σ : Type) where
  network : σ
  events : List Event

namespace Session

def start {σ : Type} (network : σ) : Session σ := ⟨network, []⟩

def note {σ : Type} (s : Session σ) (e : Event) : Session σ := { s with events := s.events ++ [e] }

def ask {σ : Type} (net : Network σ) (r : Request) (s : Session σ) : Outcome × Session σ :=
  let (outcome, network) := net r s.network
  (outcome, { network, events := s.events ++ [.asked r] })

end Session

def Event.requests (events : List Event) : List Request :=
  events.filterMap fun e => match e with
    | .asked r => some r
    | _ => none

def Event.fetches (events : List Event) : List FetchCall :=
  events.filterMap fun e => match e with
    | .fetched c => some c
    | _ => none

def Event.notices (events : List Event) : List String :=
  events.filterMap fun e => match e with
    | .notice line => some line
    | _ => none

def Event.pauses (events : List Event) : List Seconds :=
  events.filterMap fun e => match e with
    | .pause seconds => some seconds
    | _ => none

def Event.traces (events : List Event) : List String :=
  events.filterMap fun e => match e with
    | .traced line => some line
    | _ => none

/-- The lines that a terminal shows, of any kind, in order. -/
def Event.shown (events : List Event) : List String :=
  events.filterMap fun e => match e with
    | .notice line => some line
    | .warning line => some line
    | .traced line => some line
    | _ => none

/-- Work that asks a network and may fail. -/
abbrev Fetching (σ : Type) := ExceptT Fault (StateM (Session σ))

namespace Fetching

def happen {σ : Type} (e : Event) : Fetching σ Unit := modify (·.note e)

def notice {σ : Type} (line : String) : Fetching σ Unit := happen (.notice line)

def ask {σ : Type} (net : Network σ) (r : Request) : Fetching σ Outcome :=
  modifyGet (Session.ask net r)

def ofResult {σ α : Type} : Except Fault α → Fetching σ α
  | .ok a => pure a
  | .error f => throw f

/-- Work that fetches an address; what came of it is noted. -/
def noted {σ : Type} (url : String) (headers : List (String × String)) (work : Fetching σ Reply) :
    Fetching σ Reply := fun s =>
  let (result, s) := work s
  (result, s.note (.fetched ⟨url, headers, result⟩))

end Fetching

end Gleaner
