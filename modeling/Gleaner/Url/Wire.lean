/-
  Gleaner/Url/Wire.lean
  =====================
  **Addresses on the wire.**  The form in which an address is asked for: scheme and host
  in small letters, no port that goes without saying, no steps through folders, and
  everything in ASCII.  `Wire.ofChars` reads that form from any address or says what is
  wrong with it.
-/
import Gleaner.Url.Host
import Gleaner.Url.Parts

namespace Gleaner.Url

inductive WireProblem where
  | tooLong
  /-- A control character, at a place counted from zero. -/
  | control (c : Char) (index : Nat)
  | host (problem : HostProblem)
  | port (text : List Char)
  /-- After an authority comes a path without a slash in front. -/
  | loosePath
  /-- A path alone that starts like an authority. -/
  | emptyAuthority
  /-- A path alone that starts like a scheme. -/
  | emptyScheme
deriving DecidableEq, Repr

def WireProblem.message : WireProblem → String
  | .tooLong => "URL too long"
  | .control c index =>
      "Invalid non-printable ASCII character in URL, " ++ String.ofList (Text.quotedChars [c])
        ++ " at position " ++ toString index ++ "."
  | .host problem => problem.message
  | .port text => "Invalid port: " ++ String.ofList (Text.quotedChars text)
  | .loosePath => "For absolute URLs, path must be empty or begin with '/'"
  | .emptyAuthority => "Relative URLs cannot have a path starting with '//'"
  | .emptyScheme => "Relative URLs cannot have a path starting with ':'"

structure Wire where
  scheme : List Char
  userInfo : List Char
  host : List Char
  port : Option Int
  path : List Char
  query : Option (List Char)
  fragment : Option (List Char)
deriving DecidableEq, Repr, Inhabited

namespace Wire

/-! ### Characters -/

def isPlain (c : Char) : Bool := decide (32 ≤ c.toNat ∧ c.toNat < 127)

def plainBut (taken : String) (c : Char) : Bool := isPlain c && !taken.toList.contains c

def isUserInfoSafe : Char → Bool := plainBut " \"#<>?\x60\x7b\x7d/;=@[\\]^|"

def isPathSafe : Char → Bool := plainBut " \"#<>?\x60\x7b\x7d"

def isQuerySafe : Char → Bool := plainBut " \"#<>"

def isFragmentSafe : Char → Bool := plainBut " \"<>\x60"

/-! ### Reading -/

def maxLength : Nat := 65536

def firstControl? (s : List Char) : Option (Char × Nat) :=
  (s.zipIdx).find? fun (c, _) => decide (c.toNat < 128) && !isPlain c

/-- Scheme and rest; a colon in front is an empty scheme. -/
def splitScheme (s : List Char) : List Char × List Char :=
  match Text.cutAt? [':'] s with
  | some ([], rest) => ([], rest)
  | some (c :: front, rest) =>
      if Text.asciiLetter c && front.all isSchemeChar then (c :: front, rest) else ([], s)
  | none => ([], s)

/-- What stands before the first `mark`, and what after it if there is one. -/
def splitMark (mark : Char) (s : List Char) : List Char × Option (List Char) :=
  match Text.cutAt? [mark] s with
  | some (a, b) => (a, some b)
  | none => (s, none)

/-- What stands before the last `mark`, nothing if there is none, and what after it. -/
def splitLast (mark : Char) (s : List Char) : List Char × List Char :=
  if s.contains mark then
    let after := (s.reverse.takeWhile (· ≠ mark)).reverse
    (s.take (s.length - after.length - 1), after)
  else ([], s)

/-- The host, in brackets or up to a colon, and what follows it. -/
def splitHost (s : List Char) : List Char × List Char :=
  if s.head? == some '[' && s.contains ']' then
    let after := (s.reverse.takeWhile (· ≠ ']')).reverse
    (s.take (s.length - after.length), after)
  else (s.takeWhile (· ≠ ':'), s.dropWhile (· ≠ ':'))

def usualPort? (scheme : List Char) : Option Int :=
  match String.ofList scheme with
  | "ftp" => some 21
  | "http" => some 80
  | "https" => some 443
  | "ws" => some 80
  | "wss" => some 443
  | _ => none

/-- The port, unless it goes without saying. -/
def readPort (scheme text : List Char) : Except WireProblem (Option Int) :=
  if text.isEmpty then .ok none
  else
    match Text.parseInt text with
    | .error _ => .error (.port text)
    | .ok n => .ok (if usualPort? scheme = some n then none else some n)

/-- The segments after single and double dots have been followed; what was passed comes
    in reverse. -/
def followDots : List (List Char) → List (List Char) → List (List Char)
  | passed, [] => passed.reverse
  | passed, segment :: more =>
      if segment = ['.'] then followDots passed more
      else if segment = ['.', '.'] then
        followDots (if passed = [[]] then passed else passed.drop 1) more
      else followDots (segment :: passed) more

/-- A path without steps through folders. -/
def withoutDots (path : List Char) : List Char :=
  let segments := Text.splitChar '/' path
  if segments.contains ['.'] || segments.contains ['.', '.'] then
    Text.joinChar '/' (followDots [] segments)
  else path

def pathProblem? (hasScheme hasAuthority : Bool) (path : List Char) : Option WireProblem :=
  if hasAuthority then
    if !path.isEmpty && path.head? != some '/' then some .loosePath else none
  else if hasScheme then none
  else if Text.startsWith ['/', '/'] path then some .emptyAuthority
  else if Text.startsWith [':'] path then some .emptyScheme
  else none

def ofChars (s : List Char) : Except WireProblem Wire := do
  if maxLength < s.length then throw .tooLong
  if let some (c, i) := firstControl? s then throw (.control c i)
  let (scheme, rest) := splitScheme s
  let (rest, fragment) := splitMark '#' rest
  let (rest, query) := splitMark '?' rest
  let (authority, path) :=
    if Text.startsWith ['/', '/'] rest then
      ((rest.drop 2).takeWhile (· ≠ '/'), (rest.drop 2).dropWhile (· ≠ '/'))
    else ([], rest)
  let (userInfo, place) := splitLast '@' authority
  let (host, after) := splitHost place
  let userInfo := percentEncodeOnce isUserInfoSafe userInfo
  let host ← (wireHost host).mapError .host
  let port ← readPort scheme (if after.head? == some ':' then after.drop 1 else after)
  let hasAuthority := !userInfo.isEmpty || !host.isEmpty || port.isSome
  if let some problem := pathProblem? (!scheme.isEmpty) hasAuthority path then throw problem
  let path := if !scheme.isEmpty || hasAuthority then withoutDots path else path
  return {
    scheme := Text.asciiLowerChars scheme
    userInfo, host, port
    path := percentEncodeOnce isPathSafe path
    query := query.map (percentEncodeOnce isQuerySafe)
    fragment := fragment.map (percentEncodeOnce isFragmentSafe) }

/-! ### Writing -/

def authority (w : Wire) : List Char :=
  (if w.userInfo.isEmpty then [] else w.userInfo ++ ['@'])
    ++ (if w.host.contains ':' then '[' :: (w.host ++ [']']) else w.host)
    ++ (match w.port with
      | none => []
      | some n => ':' :: (toString n).toList)

def text (w : Wire) : String :=
  String.ofList
    ((if w.scheme.isEmpty then [] else w.scheme ++ [':'])
      ++ (if w.authority.isEmpty then [] else '/' :: '/' :: w.authority)
      ++ w.path
      ++ (match w.query with
        | none => []
        | some q => '?' :: q)
      ++ (match w.fragment with
        | none => []
        | some f => '#' :: f))

/-! ### What can be asked -/

/-- Why no server can be asked, if the scheme or the host does not tell which. -/
def refusal? (w : Wire) : Option String :=
  let scheme := String.ofList w.scheme
  if w.scheme.isEmpty || w.host.isEmpty then
    some "Request URL is missing an 'http://' or 'https://' protocol."
  else if scheme = "http" ∨ scheme = "https" then none
  else some ("Request URL has an unsupported protocol '" ++ scheme ++ "://'.")

def credentials (w : Wire) : List Char × List Char :=
  let read (s : List Char) := Text.Utf8.decodeLenient (percentDecode s)
  let (name, password) := splitMark ':' w.userInfo
  (read name, read (password.getD []))

end Wire

end Gleaner.Url
