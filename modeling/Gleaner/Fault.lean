/-
  Gleaner/Fault.lean
  ==================
  **Faults.**  Everything that can end an operation without an answer, by cause.
  `Fault.text` is what a person is told; `Fault.inspect` is the form for trace
  lines, the label of the cause with its text quoted.
-/
import Gleaner.Text.Quoted

namespace Gleaner

/-- Why an operation gives no answer. -/
inductive Fault where
  /-- The network failed, or a chain of redirects was too long. -/
  | transport (message : String) (url : Option String)
  | status (message : String) (url : Option String) (code : Int)
  /-- A response cannot be read as a document, or holds nothing usable. -/
  | unreadable (message : String) (url : Option String)
  /-- The source cannot drive the stage that was asked for. -/
  | config (message : String) (url : Option String)
  | notJson (message : String)
  /-- A value is outside the range that is accepted. -/
  | badValue (message : String)
  /-- A value of the wrong kind. -/
  | badKind (message : String)
  | noKey (message : String)
  | noOperation (message : String)
  /-- A selector asks for a part of an element; `index` is its place. -/
  | pseudoElement (index : Nat)
  /-- A text that cannot be encoded. -/
  | notEncodable (message : String)
  /-- A failure of the network client that is no failure of the network. -/
  | client (label : String) (message : String)
  /-- The clock has no further time to give. -/
  | clockExhausted
  | isFolder (path : String)
  /-- A path that leads through a file. -/
  | notFolder (path : String)
deriving DecidableEq, Repr, Inhabited

namespace Fault

def withUrl (message : String) : Option String → String
  | none => message
  | some url => if url = "" then message else message ++ " (" ++ url ++ ")"

def text : Fault → String
  | .transport m url => withUrl m url
  | .status m url code => withUrl m url ++ " [HTTP " ++ toString code ++ "]"
  | .unreadable m url => withUrl m url
  | .config m url => withUrl m url
  | .notJson m => m
  | .badValue m => m
  | .badKind m => m
  | .noKey m => Text.quoted m
  | .noOperation m => m
  | .pseudoElement index => "Pseudo-element found at position " ++ toString index
  | .notEncodable m => m
  | .client _ m => m
  | .clockExhausted => ""
  | .isFolder path => "[Errno 21] Is a directory: " ++ Text.quoted path
  | .notFolder path => "[Errno 20] Not a directory: " ++ Text.quoted path

def label : Fault → String
  | .transport .. => "TransportError"
  | .status .. => "HttpStatusError"
  | .unreadable .. => "SourceParseError"
  | .config .. => "SourceConfigError"
  | .notJson _ => "JSONDecodeError"
  | .badValue _ => "ValueError"
  | .badKind _ => "TypeError"
  | .noKey _ => "KeyError"
  | .noOperation _ => "AttributeError"
  | .pseudoElement _ => "NotImplementedError"
  | .notEncodable _ => "UnicodeEncodeError"
  | .client l _ => l
  | .clockExhausted => "StopIteration"
  | .isFolder _ => "IsADirectoryError"
  | .notFolder _ => "NotADirectoryError"

def message : Fault → String
  | .transport m _ => m
  | .status m _ _ => m
  | .unreadable m _ => m
  | .config m _ => m
  | .noKey m => m
  | f => f.text

/-- Label and quoted message, as trace lines show a fault. -/
def inspect (f : Fault) : String := f.label ++ "(" ++ Text.quoted f.message ++ ")"

/-- A failure to fetch, parse or configure, which ends a stage and no more. -/
def endsStage : Fault → Bool
  | .transport .. => true
  | .status .. => true
  | .unreadable .. => true
  | .config .. => true
  | _ => false

end Fault

end Gleaner
