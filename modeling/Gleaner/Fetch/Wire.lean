/-
  Gleaner/Fetch/Wire.lean
  =======================
  **Requests on the wire.**  Between who fetches and the server stand the rules of the
  wire: addresses in their normal form, names of headers in small letters, values of
  headers in ASCII, and a password in the address sent as a header.  `overWire` makes a
  network of a server that knows only the wire.
-/
import Gleaner.Fetch.Basic
import Gleaner.Text.Base64
import Gleaner.Url.Wire

namespace Gleaner

structure WireRequest where
  url : String
  headers : List (String × String)
deriving DecidableEq, Repr, Inhabited

/-- What answers on the wire. -/
abbrev Server (σ : Type) := WireRequest → σ → Outcome × σ

namespace Wire

/-! ### Headers -/

/-- The sentence for characters beyond ASCII, from `first` to before `past`. -/
def notAsciiText (s : List Char) (first past : Nat) : String :=
  let place :=
    if past = first + 1 then
      let shown := match s[first]? with
        | none => []
        | some c =>
            let n := c.toNat
            if n < 0x100 then '\\' :: 'x' :: Text.hexText 2 n
            else if n < 0x10000 then '\\' :: 'u' :: Text.hexText 4 n
            else '\\' :: 'U' :: Text.hexText 8 n
      "character '" ++ String.ofList shown ++ "' in position " ++ toString first
    else "characters in position " ++ toString first ++ "-" ++ toString (past - 1)
  "'ascii' codec can't encode " ++ place ++ ": ordinal not in range(128)"

def asciiFault? (s : String) : Option Fault :=
  let cs := s.toList
  let plain (c : Char) : Bool := decide (c.toNat < 128)
  let first := (cs.takeWhile plain).length
  let past := first + ((cs.drop first).takeWhile fun c => !plain c).length
  if first = cs.length then none else some (.notEncodable (notAsciiText cs first past))

/-- The first fault among headers, name before value. -/
def headerFault? (headers : List (String × String)) : Option Fault :=
  headers.findSome? fun (name, value) => (asciiFault? name).or (asciiFault? value)

/-- The headers with names in small letters; the values of one name stand together. -/
def mergeHeaders (headers : List (String × String)) : List (String × String) :=
  headers.foldl
    (fun merged (name, value) =>
      let name := Text.asciiLower name
      if merged.any (·.1 == name) then
        merged.map fun h => if h.1 == name then (name, h.2 ++ ", " ++ value) else h
      else merged ++ [(name, value)])
    []

def ofConnection (name : String) : Bool :=
  ["host", "accept", "accept-encoding", "connection"].contains name

def authorization? (name password : List Char) : Option (String × String) :=
  if name.isEmpty && password.isEmpty then none
  else
    some ("authorization",
      "Basic " ++ String.ofList (Text.base64 (Text.Utf8.encode (name ++ ':' :: password))))

def requestHeaders (address : Url.Wire) (headers : List (String × String)) :
    List (String × String) :=
  let merged := (mergeHeaders headers).filter fun h => !ofConnection h.1
  let (name, password) := address.credentials
  match authorization? name password with
  | none => merged
  | some header => merged.filter (fun h => h.1 != header.1) ++ [header]

/-! ### Replies -/

/-- A reply as it is handed on: from the address that was asked, with headers in small
    letters and the length of a body that is not empty. -/
def received (url : String) (r : Reply) : Outcome :=
  match headerFault? r.headers with
  | some f => .fault f
  | none =>
      let headers := mergeHeaders r.headers
      let length := ("content-length", toString r.body.length)
      let headers :=
        if r.body.isEmpty || headers.any (·.1 == length.1) then headers else headers ++ [length]
      .reply { r with url, headers }

/-! ### The network -/

/-- The network of a server: an address it cannot be asked for never reaches it. -/
def overWire {σ : Type} (server : Server σ) : Network σ := fun r state =>
  match Url.Wire.ofChars r.url.toList with
  | .error problem => (.malformed problem.message, state)
  | .ok address =>
      match headerFault? r.headers with
      | some f => (.fault f, state)
      | none =>
          match address.refusal? with
          | some reason => (.unsupported reason, state)
          | none =>
              match server ⟨address.text, requestHeaders address r.headers⟩ state with
              | (.reply reply, state) => (received address.text reply, state)
              | other => other

end Wire

end Gleaner
