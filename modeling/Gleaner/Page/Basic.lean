/-
  Gleaner/Page/Basic.lean
  =======================
  **Pages.**  A page is what a response body was read as: data or a document.  The
  same two questions can be put to both, which items a rule selects and which text,
  in the whole page or in an item selected before.  Nothing found is no fault.
-/
import Gleaner.Json.Bytes
import Gleaner.Json.Select
import Gleaner.Json.Shown
import Gleaner.Markup.Charset
import Gleaner.Markup.Token.Lexer
import Gleaner.Page.Markup
import Gleaner.Page.Sniff

namespace Gleaner

inductive Item where
  | value (v : Json)
  | element (p : Markup.Place)

inductive Page where
  | data (root : Json)
  | document (root : Markup.Place)

namespace Page

/-! ### Reading a body -/

/-- The fault of a body that only looks like Json. -/
def falseJson (reason : String) : Fault :=
  .unreadable ("Response looks like JSON but failed to decode: " ++ reason) none

/-- Read Json; a number with too many digits is a fault of its own. -/
def readJson (s : List Char) : Except Fault Page :=
  match Json.readDocument s with
  | .ok v => .ok (.data v)
  | .error f =>
      match f.problem with
      | .tooManyDigits digits => .error (.badValue (Text.digitLimitText digits))
      | _ => .error (falseJson (f.message s))

/-- Read a document; `single` reads one byte in its encoding. -/
def readMarkup (single : Nat → Option Char) (s : List Char) : Except Fault Page :=
  match Markup.tokens single s with
  | .ok ts => .ok (.document (.ofDocument (Markup.Node.ofTokens ts)))
  | .error (.badValue reason) =>
      .error (.unreadable ("HTML parser rejected the response: " ++ reason) none)
  | .error f => .error f

/-- Read a body as data if it looks like Json, else as a document. -/
def read (body : Body) : Except Fault Page :=
  match body, body.looksLikeJson with
  | .text s, true => readJson (s.toList.dropWhile (· == Body.mark))
  | .bytes b, true =>
      match Json.textOfBytes b with
      | .ok s => readJson s
      | .error reason => .error (falseJson reason)
  | .text s, false => readMarkup (fun _ => none) s.toList
  | .bytes b, false =>
      let d := Markup.readDocument b
      readMarkup (fun n => d.charset.bind (·.single? n)) d.text

/-- Reading the body as a document gives no text without replacements. -/
def isLossy (body : Body) : Bool :=
  match body with
  | .text _ => false
  | .bytes b => !body.looksLikeJson && (Markup.readDocument b).lossy

def lossyWarning : String :=
  "Some characters could not be decoded, and were replaced with REPLACEMENT CHARACTER."

def isData : Page → Bool
  | .data _ => true
  | .document _ => false

/-! ### Rules as they are -/

/-- The item that a null stands for: none. -/
def given : Option Item → Option Item
  | some (.value .null) => none
  | item => item

/-- The element in which a rule for documents is followed. -/
def scopeIn (root : Markup.Place) (context : Option Item) : Except Fault Markup.Place :=
  match given context with
  | none => .ok root
  | some (.element p) => .ok p
  | some (.value v) =>
      .error (.badKind ("HTML rules need an element context, got " ++ v.kindName))

def valueIn (root : Json) (context : Option Item) : Json :=
  match given context with
  | some (.value v) => v
  | _ => root

/-- The items that a rule selects; in data an empty rule selects the items of the
    context, if that is a list. -/
def select (page : Page) (rule : String) (context : Option Item) : Except Fault (List Item) :=
  match page with
  | .data root =>
      let target := valueIn root context
      if rule = "" then
        match target with
        | .arr items => .ok (items.map .value)
        | _ => .ok []
      else (Json.selectList target rule).map (·.map .value)
  | .document root =>
      if Text.allBlank rule then .ok []
      else
        match scopeIn root context with
        | .error e => .error e
        | .ok scope =>
            (Markup.selectElements scope (Rule.compile (some rule))).map (·.map .element)

def read? (page : Page) (rule : String) (context : Option Item) : Except Fault String :=
  match page with
  | .data root =>
      if rule = "" then .ok ""
      else (Json.selectValue (valueIn root context) rule).bind fun v => (v.getD .null).asText
  | .document root =>
      if Text.allBlank rule then .ok ""
      else
        match scopeIn root context with
        | .error e => .error e
        | .ok scope => Markup.selectText scope (Rule.compile (some rule))

/-! ### Rules of a source -/

/-- A rule of a source without the blanks around it; no rule is an empty one. -/
def trimmed (rule : Option String) : String := Text.trim (rule.getD "")

def items (page : Page) (rule : Option String) (context : Option Item) :
    Except Fault (List Item) :=
  page.select (trimmed rule) context

def text (page : Page) (rule : Option String) (context : Option Item) : Except Fault String :=
  page.read? (trimmed rule) context

end Page

end Gleaner
