/-
  Gleaner/Fetch/Retrieve.lean
  ===========================
  **Retrieving an address.**  A request that the network fails is repeated after a pause
  that grows with every attempt; every reply is taken as it is.  Replies that redirect
  are followed, a bounded number of times, with the same headers.
-/
import Gleaner.Fetch.Basic
import Gleaner.Url.Parts

namespace Gleaner

structure FetchPolicy where
  /-- How often a failed request is repeated. -/
  retries : Int
  /-- Seconds before the first repetition. -/
  baseDelay : Seconds
  timeout : Seconds
  maxRedirects : Int
  userAgent : String
deriving DecidableEq, Repr, Inhabited

namespace FetchPolicy

def ofSettings (s : Settings) : FetchPolicy where
  retries := s.fetchRetries
  baseDelay := s.retryBaseDelay
  timeout := s.requestTimeout
  maxRedirects := s.maxRedirects
  userAgent := s.userAgent

/-- The pause after a failed attempt; attempts count from one. -/
def delay (p : FetchPolicy) (attempt : Nat) : Seconds := p.baseDelay.times attempt

/-- Give a header a value, in its place if it is there. -/
def setHeader (headers : List (String × String)) (name value : String) : List (String × String) :=
  if headers.any (·.1 == name) then
    headers.map fun h => if h.1 == name then (name, value) else h
  else headers ++ [(name, value)]

def headers (p : FetchPolicy) (extra : List (String × String)) : List (String × String) :=
  extra.foldl (fun hs (name, value) => setHeader hs name value) [("User-Agent", p.userAgent)]

end FetchPolicy

namespace Fetching

variable {σ : Type}

/-! ### One address -/

def givenUpLine (url : String) (attempt : Nat) (label message : String) : String :=
  let shown := String.ofList ((Fault.client label message).inspect.toList.take 120)
  "[fetch] " ++ url ++ " failed after " ++ toString attempt ++ " attempt(s): " ++ shown

def retryLine (p : FetchPolicy) (url : String) (attempt : Nat) : String :=
  "[fetch] " ++ url ++ " failed (attempt " ++ toString attempt ++ "/" ++ toString (p.retries + 1)
    ++ "); retrying in " ++ (p.delay attempt).oneDecimal ++ "s …"

/-- What comes of a request with an outcome; `failed` goes on after a failure of the
    network. -/
def conclude (r : Request) (failed : String → String → Fetching σ Reply) :
    Outcome → Fetching σ Reply
  | .reply reply => return reply
  | .unsupported m => throw (.config ("Unsupported URL: " ++ m) (some r.url))
  | .malformed m => throw (.config ("Invalid URL: " ++ m) (some r.url))
  | .fault f => throw f
  | .failed label m => failed label m

/-- Ask until there is an answer; `left` repetitions are allowed, and this is attempt
    number `attempt`. -/
def attempts (net : Network σ) (p : FetchPolicy) (r : Request) : Nat → Nat → Fetching σ Reply
  | 0, attempt => do
      let outcome ← ask net r
      conclude r (fun label m => do
        notice (givenUpLine r.url attempt label m)
        throw (.transport ("Network request failed: " ++ m) (some r.url))) outcome
  | left + 1, attempt => do
      let outcome ← ask net r
      conclude r (fun _ _ => do
        notice (retryLine p r.url attempt)
        happen (.pause (p.delay attempt))
        attempts net p r left (attempt + 1)) outcome

def hop (net : Network σ) (p : FetchPolicy) (headers : List (String × String)) (url : String) :
    Fetching σ Reply :=
  attempts net p ⟨url, headers, p.timeout⟩ p.retries.toNat 1

/-! ### A chain of addresses -/

def redirection? (r : Reply) : Option String :=
  if r.status = 301 ∨ r.status = 302 then
    match r.header? "location" with
    | some location => if location = "" then none else some location
    | none => none
  else none

/-- Follow redirects from an address, with at most so many requests. -/
def follow (net : Network σ) (p : FetchPolicy) (headers : List (String × String))
    (start : String) : Nat → String → Fetching σ Reply
  | 0, _ =>
      throw (.transport ("Too many redirects (more than " ++ toString p.maxRedirects ++ ")")
        (some start))
  | hops + 1, current => do
      let reply ← hop net p headers current
      match redirection? reply with
      | none => return reply
      | some location =>
          let next ← ofResult (Url.redirectTarget current location)
          follow net p headers start hops next

/-- The last reply of the chain that starts at an address, whatever its status. -/
def retrieve (net : Network σ) (p : FetchPolicy) (url : String) (extra : List (String × String)) :
    Fetching σ Reply :=
  let url := Text.trim url
  if url = "" then throw (.config "URL must not be empty" none)
  else follow net p (p.headers extra) url (p.maxRedirects + 1).toNat url

/-- Fetch an address: the last reply of the chain, whatever its status. -/
def fetch (net : Network σ) (p : FetchPolicy) (url : String) (extra : List (String × String)) :
    Fetching σ Reply :=
  noted url extra (retrieve net p url extra)

/-- Fetch an address; any status but one of success is a fault. -/
def fetchOk (net : Network σ) (p : FetchPolicy) (url : String)
    (extra : List (String × String)) : Fetching σ Reply := do
  let reply ← fetch net p url extra
  if reply.isOk then return reply
  else throw (.status "Request failed" (some reply.url) reply.status)

end Fetching

end Gleaner
