/-
  Gleaner/Settings.lean
  =====================
  **Settings.**  How to fetch and how much to show.  They are read from named values
  of the surroundings; the fields are read in their order here, so the first one that
  cannot be read is the one reported.
-/
import Gleaner.Decimal.Read
import Gleaner.Fault
import Gleaner.Path
import Gleaner.Seconds

namespace Gleaner

/-- How to fetch, and how much to show. -/
structure Settings where
  /-- Seconds to wait for a reply. -/
  requestTimeout : Seconds
  /-- How often a failed request is repeated. -/
  fetchRetries : Int
  /-- Seconds before the first repetition. -/
  retryBaseDelay : Seconds
  maxRedirects : Int
  userAgent : String
  /-- How many items of a list a trace shows. -/
  previewItems : Int
  /-- How many characters of a body a trace shows. -/
  previewChars : Int
  /-- How many characters of a chapter a trace shows. -/
  contentPreviewChars : Int
  /-- Where sources are looked for, if that was said. -/
  sources : Option Path
deriving DecidableEq, Repr, Inhabited

namespace Settings

def usualUserAgent : String :=
  "Mozilla/5.0 (Windows NT 10.0; Win64; x64) " ++ "AppleWebKit/537.36 (KHTML, like Gecko) "
    ++ "Chrome/122.0.0.0 Safari/537.36"

/-- The fault of a text that is no whole number; not too much of it is quoted. -/
def notWhole (s : String) : Fault :=
  let shown := (Text.quotedChars s.toList).take 200
  .badValue ("invalid literal for int() with base 10: " ++ String.ofList shown)

def readWhole (s : String) : Except Fault Int :=
  match Text.parseInt s.toList with
  | .ok n => .ok n
  | .error .malformed => .error (notWhole s)
  | .error (.tooLong digits) => .error (.badValue (Text.digitLimitText digits))

def readSeconds (s : String) : Except Fault Seconds :=
  match Binary64.parseReal? s with
  | some x => .ok (.real x)
  | none => .error (.badValue ("could not convert string to float: " ++ Text.quoted s))

def ofValues (value? : String → Option String) : Except Fault Settings := do
  let given (name otherwise : String) := (value? name).getD otherwise
  let requestTimeout ← readSeconds (given "REQUEST_TIMEOUT" "15.0")
  let fetchRetries ← readWhole (given "FETCH_RETRIES" "2")
  let retryBaseDelay ← readSeconds (given "RETRY_BASE_DELAY" "0.5")
  let maxRedirects ← readWhole (given "MAX_REDIRECTS" "5")
  let previewItems ← readWhole (given "PREVIEW_ITEMS" "3")
  let previewChars ← readWhole (given "PREVIEW_CHARS" "200")
  let contentPreviewChars ← readWhole (given "CONTENT_PREVIEW_CHARS" "100")
  return {
    requestTimeout, fetchRetries, retryBaseDelay, maxRedirects
    userAgent := given "BOOKRULE_USER_AGENT" usualUserAgent
    previewItems, previewChars, contentPreviewChars
    sources := (value? "BOOKRULE_SOURCES").map Path.ofText }

def usual : Settings where
  requestTimeout := .real (.ofInt 15)
  fetchRetries := 2
  retryBaseDelay := .real (.ofRatio false 1 2)
  maxRedirects := 5
  userAgent := usualUserAgent
  previewItems := 3
  previewChars := 200
  contentPreviewChars := 100
  sources := none

end Settings

end Gleaner
