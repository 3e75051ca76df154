/-
  Gleaner/Url/Parts.lean
  ======================
  **Addresses and their parts.**  An address is scheme, authority, path, query and
  fragment.  `split` takes it apart, `Parts.text` puts it together, and `join`
  resolves a reference against the address of the page it stands on.
-/
import Gleaner.Fault
import Gleaner.Text.Blank
import Gleaner.Text.Split
import Gleaner.Text.Digits
import Gleaner.Text.Case
import Gleaner.Url.Host

namespace Gleaner.Url

/-- The parts of an address; a part that is absent is empty. -/
structure Parts where
  scheme : List Char
  authority : List Char
  path : List Char
  query : List Char
  fragment : List Char
deriving DecidableEq, Repr, Inhabited

/-! ### Schemes -/

def relativeSchemes : List String :=
  ["", "ftp", "http", "gopher", "nntp", "imap", "wais", "file", "https", "shttp", "mms",
   "prospero", "rtsp", "rtsps", "rtspu", "sftp", "svn", "svn+ssh", "ws", "wss"]

def authoritySchemes : List String :=
  ["", "ftp", "http", "gopher", "nntp", "telnet", "imap", "wais", "file", "mms", "https", "shttp",
   "snews", "prospero", "rtsp", "rtsps", "rtspu", "rsync", "svn", "svn+ssh", "sftp", "nfs", "git",
   "git+ssh", "ws", "wss"]

def parameterSchemes : List String :=
  ["", "ftp", "hdl", "prospero", "http", "imap", "https", "shttp", "rtsp", "rtsps", "rtspu", "sip",
   "sips", "mms", "sftp", "tel"]

def schemeIn (scheme : List Char) (schemes : List String) : Bool :=
  schemes.contains (String.ofList scheme)

def isSchemeChar (c : Char) : Bool :=
  Text.asciiLetter c || Text.asciiDigit c || c == '+' || c == '-' || c == '.'

/-! ### Taking apart -/

/-- Characters at the front that do not count: controls and spaces. -/
def isFrontNoise (c : Char) : Bool := c.toNat ≤ 0x20

/-- Characters that do not count anywhere: tabs and line ends. -/
def isLineNoise (c : Char) : Bool := c == '\t' || c == '\r' || c == '\n'

def cleaned (s : List Char) : List Char := (s.dropWhile isFrontNoise).filter (!isLineNoise ·)

/-- Scheme, in small letters, and the rest; `otherwise` if there is none. -/
def splitScheme (otherwise s : List Char) : List Char × List Char :=
  match Text.cutAt? [':'] s with
  | some (c :: front, rest) =>
      if Text.asciiLetter c && front.all isSchemeChar then
        ((c :: front).map Text.asciiLowerChar, rest)
      else (otherwise, s)
  | _ => (otherwise, s)

def endsAuthority (c : Char) : Bool := c == '/' || c == '?' || c == '#'

def splitAuthority (s : List Char) : List Char × List Char :=
  match s with
  | '/' :: '/' :: r => (r.takeWhile (!endsAuthority ·), r.dropWhile (!endsAuthority ·))
  | s => ([], s)

def splitAt (c : Char) (s : List Char) : List Char × List Char :=
  match Text.cutAt? [c] s with
  | some (a, b) => (a, b)
  | none => (s, [])

/-- Characters beyond ASCII that look like one of the delimiters of an address. -/
def delimiterLookalikes : List Nat :=
  [0x2047, 0x2048, 0x2049, 0x2100, 0x2101, 0x2105, 0x2106, 0x2A74, 0xFE13, 0xFE16, 0xFE55, 0xFE56,
   0xFE5F, 0xFE6B, 0xFF03, 0xFF0F, 0xFF1A, 0xFF1F, 0xFF20]

def hasLoneBracket (authority : List Char) : Bool :=
  authority.contains '[' != authority.contains ']'

/-- What stands between the first bracket that opens and the next one that closes.  Text
    around the brackets, which stricter readers of addresses refuse, is not looked at. -/
def bracketed (authority : List Char) : List Char :=
  (splitAt ']' (splitAt '[' authority).2).1

/-- A form that is yet to come: its version, a point and more. -/
def isFutureAddress : List Char → Bool
  | 'v' :: s =>
      !(s.takeWhile Text.isHex).isEmpty
        && match s.dropWhile Text.isHex with
          | '.' :: _ :: _ => true
          | _ => false
  | _ => false

def fitsBrackets (host : List Char) : Bool :=
  if host.head? == some 'v' then isFutureAddress host else isZonedAddress host

def misfitText (host : List Char) : String :=
  if host.head? == some 'v' then "IPvFuture address is invalid"
  else if isFourOctets host then "An IPv4 address cannot be in brackets"
  else String.ofList (Text.quotedChars host)
    ++ " does not appear to be an IPv4 or IPv6 address"

def hasMisfit (authority : List Char) : Bool :=
  authority.contains '[' && !fitsBrackets (bracketed authority)

/-- An authority that could be taken for one with other delimiters. -/
def isDeceptive (authority : List Char) : Bool :=
  authority.any fun c => delimiterLookalikes.contains c.toNat

/-- Take an address apart; `scheme` is that of an address which has none. -/
def splitWith (scheme : List Char) (url : List Char) : Except Fault Parts :=
  let (scheme, rest) := splitScheme scheme (cleaned url)
  let (authority, rest) := splitAuthority rest
  if hasLoneBracket authority then .error (.badValue "Invalid IPv6 URL")
  else if hasMisfit authority then .error (.badValue (misfitText (bracketed authority)))
  else
    let (rest, fragment) := splitAt '#' rest
    let (path, query) := splitAt '?' rest
    if isDeceptive authority then
      .error (.badValue ("netloc '" ++ String.ofList authority
        ++ "' contains invalid characters under NFKC normalization"))
    else .ok ⟨scheme, authority, path, query, fragment⟩

def split (url : List Char) : Except Fault Parts := splitWith [] url

/-! ### Putting together -/

def marked (mark : Char) (s : List Char) : List Char := if s.isEmpty then [] else mark :: s

def Parts.place (p : Parts) : List Char :=
  let doubled := Text.startsWith ['/', '/'] p.path
  if !p.authority.isEmpty
      || (!p.scheme.isEmpty && schemeIn p.scheme authoritySchemes && !doubled) then
    let path := if !p.path.isEmpty && p.path.head? != some '/' then '/' :: p.path else p.path
    '/' :: '/' :: (p.authority ++ path)
  else p.path

def Parts.text (p : Parts) : List Char :=
  (if p.scheme.isEmpty then [] else p.scheme ++ [':']) ++ p.place ++ marked '?' p.query
    ++ marked '#' p.fragment

/-! ### Resolving references -/

def splitLastSlash (s : List Char) : List Char × List Char :=
  let tail := (s.reverse.takeWhile (· ≠ '/')).reverse
  (s.take (s.length - tail.length), tail)

/-- The path and the parameters of its last segment. -/
def splitParameters (scheme path : List Char) : List Char × List Char :=
  if schemeIn scheme parameterSchemes then
    let (front, last) := splitLastSlash path
    let (name, parameters) := splitAt ';' last
    if last.contains ';' then (front ++ name, parameters) else (path, [])
  else (path, [])

def withParameters (path parameters : List Char) : List Char :=
  if parameters.isEmpty then path else path ++ ';' :: parameters

/-- Resolve `.` and `..` segments from the left; `done` is the result in reverse.
    A `..` too many counts for nothing. -/
def resolveSegments : List (List Char) → List (List Char) → List (List Char)
  | done, [] => done.reverse
  | done, seg :: segs =>
      if seg = ['.', '.'] then resolveSegments (done.drop 1) segs
      else if seg = ['.'] then resolveSegments done segs
      else resolveSegments (seg :: done) segs

/-- All segments but the first and last that are empty left out. -/
def dropInnerEmpty : List (List Char) → List (List Char)
  | [] => []
  | first :: more =>
      match more.getLast? with
      | none => [first]
      | some last => first :: (more.dropLast.filter (!·.isEmpty) ++ [last])

/-- The segments of a base path to which a relative path is appended. -/
def baseSegments (path : List Char) : List (List Char) :=
  let segs := Text.splitChar '/' path
  if segs.getLast? = some [] then segs else segs.dropLast

def joinPath (base path : List Char) : List Char :=
  let segs :=
    if path.head? = some '/' then Text.splitChar '/' path
    else dropInnerEmpty (baseSegments base ++ Text.splitChar '/' path)
  let done := resolveSegments [] segs
  let done :=
    match segs.getLast? with
    | some last => if last = ['.'] ∨ last = ['.', '.'] then done ++ [[]] else done
    | none => done
  let joined := Text.joinChar '/' done
  if joined.isEmpty then ['/'] else joined

def joinParts (b r : Parts) : List Char :=
  let (bpath, bparams) := splitParameters b.scheme b.path
  let (path, params) := splitParameters r.scheme r.path
  if schemeIn r.scheme authoritySchemes && !r.authority.isEmpty then
    Parts.text { r with path := withParameters path params }
  else
    let authority := if schemeIn r.scheme authoritySchemes then b.authority else r.authority
    if path.isEmpty && params.isEmpty then
      let query := if r.query.isEmpty then b.query else r.query
      Parts.text ⟨r.scheme, authority, withParameters bpath bparams, query, r.fragment⟩
    else
      Parts.text ⟨r.scheme, authority, withParameters (joinPath bpath path) params, r.query,
        r.fragment⟩

def join (base url : List Char) : Except Fault (List Char) :=
  if base.isEmpty then .ok url
  else if url.isEmpty then .ok base
  else
    match split base with
    | .error f => .error f
    | .ok b =>
        match splitWith b.scheme url with
        | .error f => .error f
        | .ok r =>
            if r.scheme ≠ b.scheme ∨ !schemeIn r.scheme relativeSchemes then .ok url
            else .ok (joinParts b r)

/-! ### Whole addresses -/

def isAbsolute (url : List Char) : Bool :=
  Text.startsWith "http://".toList url || Text.startsWith "https://".toList url

/-- A reference resolved against a base address, unless it is absolute or there is
    no base. -/
def fullChars (base url : List Char) : Except Fault (List Char) :=
  let url := Text.trimChars url
  if isAbsolute url then .ok url
  else if base.isEmpty then .ok url
  else join base url

def full (base url : String) : Except Fault String :=
  (fullChars base.toList url.toList).map String.ofList

/-- The address that a redirect leads to.  A relative address without a query keeps
    the query of the address it comes from. -/
def redirectChars (current location : List Char) : Except Fault (List Char) := do
  let location := Text.trimChars location
  let l ← split location
  if !l.scheme.isEmpty then return location
  let c ← split current
  let t ← split (← join current location)
  return Parts.text { t with query := if t.query.isEmpty then c.query else t.query, fragment := [] }

def redirectTarget (current location : String) : Except Fault String :=
  (redirectChars current.toList location.toList).map String.ofList

end Gleaner.Url
