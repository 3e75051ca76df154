/-
  Gleaner/Markup/Token/Lexer.lean
  ===============================
  **Reading tokens.**  What begins at a `<` or an `&` is decided by the characters
  after it.  A construct that does not end within the text is *unfinished*.

  The text is read in two passes.  The first stops at an unfinished construct, as
  if more text were to come.  The second starts there and takes everything that is
  unfinished as plain text.  A malformed numeric reference ends either pass: after
  the first, reading goes on behind its `&#`, after the second, all that is left
  is plain text.
-/
import Gleaner.Markup.Token
import Gleaner.Markup.Reference
import Gleaner.Text.Case
import Gleaner.Text.Split
import Gleaner.Text.Quoted

namespace Gleaner.Markup

/-! ### Cutting text -/

/-- The text before the first place where `stop` finds its end, and the text after
    that end; `before` is the text passed so far, in reverse. -/
def cutBefore (stop : List Char → Option (List Char)) :
    List Char → List Char → Option (List Char × List Char)
  | before, [] => (stop []).map (before.reverse, ·)
  | before, c :: s =>
      match stop (c :: s) with
      | some rest => some (before.reverse, rest)
      | none => cutBefore stop (c :: before) s

/-- Drop the characters `ends`, blanks allowed before each of them but the first. -/
def afterEnds : List Char → List Char → Option (List Char)
  | [], s => some s
  | c :: ends, s =>
      match s with
      | d :: r =>
          if d = c then
            match ends with
            | [] => some r
            | _ => afterEnds ends (r.dropWhile Text.isBlank)
          else none
      | [] => none

/-- The end of a comment: two hyphens, blanks, and a closing bracket. -/
def commentEnd : List Char → Option (List Char)
  | '-' :: s => afterEnds ['-', '>'] s
  | _ => none

/-! ### Attributes -/

def isTagNameChar (c : Char) : Bool :=
  !(c == '\t' || c == '\n' || c == '\r' || c == '\x0c' || c == ' ' || c == '/' || c == '>'
    || c == '\x00')

/-- Drop blanks and slashes, but no slash in front of `>`. -/
def skipGap : List Char → List Char
  | [] => []
  | '/' :: '>' :: s => '/' :: '>' :: s
  | c :: s => if c == '/' || Text.isBlank c then skipGap s else c :: s

def isAttributeStart (c : Char) : Bool := !(Text.isBlank c || c == '/' || c == '>')

def isAttributeChar (c : Char) : Bool := isAttributeStart c && c != '='

def isBareChar (c : Char) : Bool := !(Text.isBlank c || c == '>')

def isQuote (c : Char) : Bool := c == '"' || c == '\x27'

/-- The value at the front of `s`, in quotes or bare, and the rest; `none` for a
    quote that is not closed. -/
def valueText (s : List Char) : Option (List Char × List Char) :=
  match s with
  | c :: r =>
      if isQuote c then Text.cutAt? [c] r else some (s.takeWhile isBareChar, s.dropWhile isBareChar)
  | [] => some ([], [])

/-- The sign `=` and the value after an attribute name.  Where a quote is not
    closed, the value is empty if blanks stand before the quote, and otherwise it
    starts with the last of several signs. -/
def valuePart (s : List Char) : Option (List Char × List Char) :=
  let signs := s.dropWhile Text.isBlank
  let blanks := signs.dropWhile (· == '=')
  if signs.head? ≠ some '=' then none
  else
    let body := blanks.dropWhile Text.isBlank
    match valueText body with
    | some found => some found
    | none =>
        if (blanks.head?.map Text.isBlank) = some true then some ([], body)
        else if (signs.drop 1).head? = some '=' then
          let bare := '=' :: body
          some (bare.takeWhile isBareChar, bare.dropWhile isBareChar)
        else none

/-- The attributes at the front of `s`, with raw values, and the rest; `apart` says
    that the character before is a blank, a slash or a quote.  Every attribute
    takes at least one character, which `fuel` counts. -/
def attributesFrom : Nat → Bool → List Char → List (List Char × List Char) × List Char
  | fuel + 1, true, c :: s =>
      if !isAttributeStart c then ([], c :: s)
      else
        let name := c :: s.takeWhile isAttributeChar
        let afterName := s.dropWhile isAttributeChar
        let (value, afterValue, quoted) :=
          match valuePart afterName with
          | some (value, r) => (value, r, true)
          | none => ([], afterName, (name.getLast?.map isQuote).getD false)
        let rest := skipGap afterValue
        let apart := quoted || rest.length < afterValue.length
        let (more, final) := attributesFrom fuel apart rest
        ((name, value) :: more, final)
  | _, _, s => ([], s)

/-! ### Constructs that start with `<` -/

inductive Construct where
  /-- The construct does not end within the text. -/
  | unfinished
  | tokens (ts : List Token) (rest : List Char)
deriving Repr

/-- What is left of `s` when `rest` is taken from its end. -/
def takenFrom (s rest : List Char) : List Char := s.take (s.length - rest.length)

/-- Resolve the references in attribute values; names are folded to lower case. -/
def resolveAttributes :
    List (List Char × List Char) → Except Fault (List (String × String))
  | [] => .ok []
  | (name, value) :: more =>
      match resolveValue value with
      | .error e => .error e
      | .ok v =>
          (resolveAttributes more).map
            ((String.ofList (Text.lowerChars name), String.ofList v) :: ·)

/-- A start tag; `s` follows the `<` and starts with a letter.  A tag with junk in it
    is plain text as far as the junk. -/
def startTag (s : List Char) : Except Fault Construct :=
  let name := s.takeWhile isTagNameChar
  let afterName := s.dropWhile isTagNameChar
  let body := skipGap afterName
  let apart := body.length < afterName.length || (name.getLast?.map isQuote).getD false
  let (raw, rest) := attributesFrom body.length apart body
  let tag (closed : Bool) (after : List Char) : Except Fault Construct :=
    (resolveAttributes raw).map fun attributes =>
      .tokens [.startTag (String.ofList (Text.lowerChars name)) attributes closed] after
  match rest with
  | [] => .ok .unfinished
  | '>' :: after => tag false after
  | '/' :: '>' :: after => tag true after
  | c :: _ =>
      if Text.asciiLetter c || c == '=' || c == '/' then .ok .unfinished
      else (resolveAttributes raw).map fun _ => .tokens [.text ('<' :: takenFrom s rest)] rest

def isEndNameChar (c : Char) : Bool :=
  Text.asciiLetter c || Text.asciiDigit c || c == '-' || c == '.' || c == ':' || c == '_'

def plainEndTag (s : List Char) : Option (List Char × List Char) :=
  match s.dropWhile Text.isBlank with
  | c :: r =>
      if Text.asciiLetter c then
        match (r.dropWhile isEndNameChar).dropWhile Text.isBlank with
        | '>' :: rest => some (c :: r.takeWhile isEndNameChar, rest)
        | _ => none
      else none
  | [] => none

/-- An end tag; `s` follows the `</`.  Without a name it is a comment. -/
def endTag (s : List Char) : Construct :=
  match Text.cutAt? ['>'] s with
  | none => .unfinished
  | some (content, after) =>
      match plainEndTag s with
      | some (name, rest) => .tokens [.endTag (String.ofList (Text.lowerChars name))] rest
      | none =>
          match s with
          | [] => .unfinished
          | c :: _ =>
              if Text.asciiLetter c then
                .tokens [.endTag (String.ofList (Text.lowerChars (s.takeWhile isTagNameChar)))]
                  after
              else if c == '>' then .tokens [] after
              else .tokens [.comment content] after

def comment (s : List Char) : Construct :=
  match cutBefore commentEnd [] s with
  | some (content, rest) => .tokens [.comment content] rest
  | none => .unfinished

def upToBracket (token : List Char → Token) (s : List Char) : Construct :=
  match Text.cutAt? ['>'] s with
  | some (content, rest) => .tokens [token content] rest
  | none => .unfinished

def isKeywordChar (c : Char) : Bool :=
  Text.asciiLetter c || Text.asciiDigit c || c == '-' || c == '_' || c == '.'

def rejection (reason : String) : Fault :=
  .unreadable ("HTML parser rejected the response: The markup you provided was rejected by the "
    ++ "parser. Trying a different parser or a different encoding may help.\n\n"
    ++ "Original exception(s) from parser:\n AssertionError: " ++ reason) none

/-- A marked section; `s` follows the `<![`.  The keyword decides how it ends. -/
def markedSection (s : List Char) : Except Fault Construct :=
  match s with
  | [] => .ok .unfinished
  | c :: r =>
      if !Text.asciiLetter c then
        .error (rejection ("expected name token at " ++
          Text.quoted (String.ofList (('<' :: '!' :: '[' :: s).take 20))))
      else
        let name := c :: r.takeWhile isKeywordChar
        let after := (r.dropWhile isKeywordChar).dropWhile Text.isBlank
        let keyword := String.ofList (Text.lowerChars name)
        let closing (ends : List Char) : Except Fault Construct :=
          match cutBefore (afterEnds ends) [] s with
          | some (content, rest) => .ok (.tokens [.marked content] rest)
          | none => .ok .unfinished
        if after.isEmpty then .ok .unfinished
        else if ["temp", "cdata", "ignore", "include", "rcdata"].contains keyword then
          closing [']', ']', '>']
        else if ["if", "else", "endif"].contains keyword then closing [']', '>']
        else
          .error (rejection ("unknown status keyword " ++
            Text.quoted (String.ofList (takenFrom s after)) ++ " in marked section"))

/-- The construct that starts with a `<` in front of `s`; `none` when it is plain
    text. -/
def construct? (s : List Char) : Except Fault (Option Construct) :=
  match s with
  | '/' :: r => .ok (some (endTag r))
  | '?' :: r => .ok (some (upToBracket .instruction r))
  | '!' :: '-' :: '-' :: r => .ok (some (comment r))
  | '!' :: '[' :: r => (markedSection r).map some
  | '!' :: r =>
      if Text.lowerChars (r.take 7) = "doctype".toList then
        .ok (some (match Text.cutAt? ['>'] (r.drop 7) with
          | some (content, rest) => .tokens [.doctype (content.drop 1)] rest
          | none => .unfinished))
      else .ok (some (upToBracket .comment r))
  | c :: _ => if Text.asciiLetter c then (startTag s).map some else .ok none
  | [] => .ok none

/-- How much of a text with an unfinished construct at its front is plain text once
    no more text can come: up to and with the next `>`, or else up to the next `<`,
    or else one character.  `s` follows the first character. -/
def unfinishedText (s : List Char) : List Char × List Char :=
  match Text.cutAt? ['>'] s with
  | some (content, rest) => (content ++ ['>'], rest)
  | none => if s.contains '<' then (s.takeWhile (· ≠ '<'), s.dropWhile (· ≠ '<')) else ([], s)

/-! ### References in text -/

/-- The word reference at the front of `s`, which follows an `&`: the name, and the
    text from the character after the name. -/
def wordReference (s : List Char) : Option (List Char × List Char) :=
  let isWordChar (c : Char) : Bool :=
    Text.asciiLetter c || Text.asciiDigit c || c == '-' || c == '.'
  let run := s.takeWhile isWordChar
  match s.head? with
  | none => none
  | some c =>
      if !Text.asciiLetter c then none
      else if run.length < s.length then some (run, s.drop run.length)
      else
        let closed := run.reverse.dropWhile fun c => Text.asciiLetter c || Text.asciiDigit c
        match closed with
        | [] => none
        | _ :: name => some (name.reverse, s.drop name.length)

/-- The numeric reference at the front of `s`, which follows a `&#`: the number and
    the text from the character after the digits. -/
def numberReference (s : List Char) : Except Fault (Option (Nat × List Char)) :=
  let decimal := s.takeWhile Text.asciiDigit
  let hex := (s.drop 1).takeWhile Text.isHex
  let ends (r : List Char) : Bool := match r with
    | [] => false
    | c :: _ => !Text.isHex c
  if !decimal.isEmpty then
    let rest := s.drop decimal.length
    if ends rest then (decimalNumber decimal).map fun n => some (n, rest) else .ok none
  else if (s.head? == some 'x' || s.head? == some 'X') && !hex.isEmpty then
    let rest := s.drop (hex.length + 1)
    .ok (if ends rest then some (Text.hexNumber hex, rest) else none)
  else .ok none

/-! ### The passes -/

/-- One step of reading: tokens, the text after them, and whether the pass ends. -/
structure Step where
  tokens : List Token
  rest : List Char
  halt : Bool

def stepMarkup (final : Bool) (s : List Char) : Except Fault Step :=
  match construct? s with
  | .error e => .error e
  | .ok none => .ok (if s.isEmpty then ⟨[], ['<'], true⟩ else ⟨[.text ['<']], s, false⟩)
  | .ok (some (.tokens ts rest)) => .ok ⟨ts, rest, false⟩
  | .ok (some .unfinished) =>
      if final then
        let (content, rest) := unfinishedText s
        .ok ⟨[.text ('<' :: content)], rest, false⟩
      else .ok ⟨[], '<' :: s, true⟩

def stepReference (single : Nat → Option Char) (final : Bool) (s : List Char) :
    Except Fault Step :=
  match s with
  | [] => .ok ⟨[], ['&'], true⟩
  | '#' :: r =>
      match numberReference r with
      | .error e => .error e
      | .ok (some (n, rest)) =>
          .ok ⟨[.text [charOfNumber single n]], (semicolon rest).2, false⟩
      | .ok none =>
          .ok (if r.contains ';' then ⟨[.text ['&', '#']], r, true⟩ else ⟨[], '&' :: s, true⟩)
  | c :: r =>
      match wordReference s with
      | some (name, rest) =>
          let content := (namedChars[String.ofList name]?).getD ('&' :: name)
          .ok ⟨[.text content], (semicolon rest).2, false⟩
      | none =>
          if Text.asciiLetter c then
            .ok (if final && r.isEmpty then ⟨[], s, true⟩ else ⟨[], '&' :: s, true⟩)
          else .ok ⟨[.text ['&']], s, false⟩

/-- The elements whose content is raw text up to their end tag. -/
def isRawElement (name : String) : Bool := name == "script" || name == "style"

/-- The element in whose raw content a text goes on after some tokens. -/
def rawAfter : List Token → Option String
  | [.startTag name _ false] => if isRawElement name then some name else none
  | _ => none

def rawEnd (name : String) (s : List Char) : Option (List Char) :=
  match s with
  | '<' :: '/' :: r =>
      match plainEndTag r with
      | some (found, rest) => if Text.asciiLowerChars found = name.toList then some rest else none
      | none => none
  | _ => none

def textTokens (s : List Char) : List Token := if s.isEmpty then [] else [.text s]

/-- The tokens read by one pass, the element in whose raw content it ended, and the
    text that is left.  `raw` is the element in whose raw content the text starts;
    every step takes at least one character, which `fuel` counts. -/
def pass (single : Nat → Option Char) (final : Bool) :
    Nat → Option String → List Char → Except Fault (List Token × Option String × List Char)
  | 0, raw, s => .ok ([], raw, s)
  | _ + 1, raw, [] => .ok ([], raw, [])
  | fuel + 1, some name, c :: s =>
      match cutBefore (rawEnd name) [] (c :: s) with
      | none => .ok ([], some name, c :: s)
      | some (content, rest) =>
          (pass single final fuel none rest).map fun (ts, more) =>
            (textTokens content ++ .endTag name :: ts, more)
  | fuel + 1, none, c :: s =>
      let step : Except Fault Step :=
        if c = '<' then stepMarkup final s
        else if c = '&' then stepReference single final s
        else
          let plain (c : Char) : Bool := c ≠ '<' && c ≠ '&'
          .ok ⟨[.text (c :: s.takeWhile plain)], s.dropWhile plain, false⟩
      match step with
      | .error e => .error e
      | .ok ⟨ts, rest, true⟩ => .ok (ts, none, rest)
      | .ok ⟨ts, rest, false⟩ =>
          (pass single final fuel (rawAfter ts) rest).map fun (more, last) => (ts ++ more, last)

/-- The tokens of a document; `single` reads one byte in its encoding.  Raw content
    without an end tag is dropped. -/
def tokens (single : Nat → Option Char) (s : List Char) : Except Fault (List Token) :=
  match pass single false (s.length + 1) none s with
  | .error e => .error e
  | .ok (first, raw, rest) =>
      match pass single true (rest.length + 1) raw rest with
      | .error e => .error e
      | .ok (second, some _, _) => .ok (first ++ second)
      | .ok (second, none, left) => .ok (first ++ second ++ textTokens left)

end Gleaner.Markup
