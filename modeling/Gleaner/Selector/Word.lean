/-
  Gleaner/Selector/Word.lean
  ==========================
  **The words of selectors.**  Blanks and comments, names, quoted texts, and the
  escapes in both.  A function with `?` finds its construct at the front of a text
  and gives the rest, or the construct and the rest.
-/
import Gleaner.Text.Blank
import Gleaner.Text.Digits
import Gleaner.Text.Split

namespace Gleaner.Selector

inductive Refusal where
  | malformed
  /-- A part of an element is asked for; `index` is its place. -/
  | pseudoElement (index : Nat)
  | tooManyDigits (digits : Nat)
  /-- An escape beyond the last character. -/
  | noCharacter
deriving DecidableEq, Repr

/-! ### Blanks and comments -/

/-- One blank; both characters of a line end count as one. -/
def blank? : List Char → Option (List Char)
  | '\r' :: '\n' :: s => some s
  | c :: s => if Text.isMarkupBlank c then some s else none
  | [] => none

def comment? : List Char → Option (List Char)
  | '/' :: '*' :: s => (Text.cutAt? ['*', '/'] s).map (·.2)
  | _ => none

/-- The text after blanks and comments; each takes a character, which `fuel`
    counts. -/
def skipFrom : Nat → List Char → List Char
  | 0, s => s
  | fuel + 1, s =>
      match blank? s with
      | some r => skipFrom fuel r
      | none =>
          match comment? s with
          | some r => skipFrom fuel r
          | none => s

def skip (s : List Char) : List Char := skipFrom s.length s

def skipComments : Nat → List Char → List Char
  | 0, s => s
  | fuel + 1, s =>
      match comment? s with
      | some r => skipComments fuel r
      | none => s

/-- How many characters at the end are blanks and comments. -/
def trailing : List Char → Nat
  | [] => 0
  | c :: s => if (skip (c :: s)).isEmpty then s.length + 1 else trailing s

/-! ### Escapes -/

def isLineEnd (c : Char) : Bool := c == '\r' || c == '\n' || c == '\x0c'

/-- The end of a text, a last line end not counted. -/
def atEnd (s : List Char) : Bool := s.isEmpty || s == ['\n']

/-- The hexadecimal digits of an escape and the rest, a blank after them dropped. -/
def codeEscape? (s : List Char) : Option (List Char × List Char) :=
  let digits := (s.take 6).takeWhile Text.isHex
  if digits.isEmpty then none
  else
    let r := s.drop digits.length
    some (digits, (blank? r).getD r)

/-- The rest after an escape; `s` follows the backslash. -/
def escape? (s : List Char) : Option (List Char) :=
  match codeEscape? s with
  | some (_, r) => some r
  | none =>
      match s with
      | c :: r => if !isLineEnd c then some r else if atEnd s then some s else none
      | [] => some []

def codeChar (digits : List Char) : Except Refusal Char :=
  let n := Text.hexNumber digits
  if 0x10FFFF < n then .error .noCharacter
  else if n = 0 || (0xD800 ≤ n && n ≤ 0xDFFF) then .ok '\uFFFD'
  else .ok (Char.ofNat n)

/-- A text with its escapes replaced; in quotes an escaped line end is dropped.  Each
    step takes a character, which `fuel` counts. -/
def unescapeFrom (quoted : Bool) : Nat → List Char → Except Refusal (List Char)
  | fuel + 1, '\\' :: s =>
      match codeEscape? s with
      | some (digits, r) =>
          match codeChar digits with
          | .error e => .error e
          | .ok c => (unescapeFrom quoted fuel r).map (c :: ·)
      | none =>
          match s with
          | [] => .ok ['\uFFFD']
          | c :: r =>
              if !isLineEnd c then (unescapeFrom quoted fuel r).map (c :: ·)
              else if atEnd s then .ok ['\uFFFD', '\n']
              else if quoted then unescapeFrom quoted fuel ((blank? s).getD r)
              else (unescapeFrom quoted fuel s).map ('\\' :: ·)
  | fuel + 1, c :: s => (unescapeFrom quoted fuel s).map (c :: ·)
  | _, s => .ok s

def unescape (quoted : Bool) (s : List Char) : Except Refusal (List Char) :=
  unescapeFrom quoted s.length s

/-! ### Names and values -/

def isNameStart (c : Char) : Bool := Text.asciiLetter c || c == '_' || 0xA0 ≤ c.toNat

def isNameChar (c : Char) : Bool := isNameStart c || Text.asciiDigit c || c == '-'

/-- The text after the rest of a name; each step takes a character, which `fuel`
    counts. -/
def nameRest : Nat → List Char → List Char
  | fuel + 1, '\\' :: s =>
      match escape? s with
      | some r => nameRest fuel r
      | none => '\\' :: s
  | fuel + 1, c :: s => if isNameChar c then nameRest fuel s else c :: s
  | _, s => s

def nameStart? : List Char → Option (List Char)
  | '\\' :: s => escape? s
  | c :: s => if isNameStart c then some s else none
  | [] => none

/-- What is left of `s` when `rest` is taken from its end. -/
def taken (s rest : List Char) : List Char := s.take (s.length - rest.length)

def name? (s : List Char) : Option (List Char × List Char) :=
  let start : Option (List Char) :=
    match s with
    | '-' :: '-' :: r => some r
    | '-' :: r => nameStart? r
    | _ => nameStart? s
  start.map fun r =>
    let rest := nameRest r.length r
    (taken s rest, rest)

/-- The text after the content of a quoted text and its closing quote; each step takes
    a character, which `fuel` counts. -/
def quotedRest? (quote : Char) : Nat → List Char → Option (List Char)
  | fuel + 1, '\\' :: s =>
      match s with
      | [] => none
      | '\r' :: '\n' :: r => quotedRest? quote fuel r
      | _ :: r => quotedRest? quote fuel r
  | fuel + 1, c :: s =>
      if c == quote then some s else if isLineEnd c then none else quotedRest? quote fuel s
  | _, _ => none

def isQuote (c : Char) : Bool := c == '"' || c == '\x27'

def value? (s : List Char) : Option (List Char × List Char) :=
  match s with
  | c :: r =>
      if isQuote c then (quotedRest? c (r.length + 1) r).map fun rest => (taken s rest, rest)
      else name? s
  | [] => none

def valueText (raw : List Char) : Except Refusal (List Char) :=
  match raw with
  | c :: r => if isQuote c then unescape true r.dropLast else unescape false raw
  | [] => .ok []

/-- Written values with commas between them; each takes a character, which `fuel`
    counts. -/
def valuesRest? : Nat → List Char → Option (List Char)
  | 0, _ => none
  | fuel + 1, s =>
      match value? s with
      | none => none
      | some (_, r) =>
          match skip r with
          | ',' :: more =>
              match valuesRest? fuel (skip more) with
              | some rest => some rest
              | none => some r
          | _ => some r

/-- The text after a closing bracket, blanks and comments before it skipped. -/
def closing? (s : List Char) : Option (List Char) :=
  match skip s with
  | ')' :: r => some r
  | _ => none

/-- The values found in a text from left to right, whatever stands between them; each
    step takes a character, which `fuel` counts. -/
def valuesIn : Nat → List Char → Except Refusal (List (List Char))
  | fuel + 1, c :: s =>
      match value? (c :: s) with
      | some (raw, rest) =>
          match valueText raw with
          | .error e => .error e
          | .ok text => (valuesIn fuel rest).map (text :: ·)
      | none => valuesIn fuel s
  | _, _ => .ok []

end Gleaner.Selector
