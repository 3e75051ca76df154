/-
  Gleaner/Json/Path/Lexer.lean
  ============================
  **The words of a path.**  The list of words ends early, with `foreign`, at the
  first character that belongs to no word.  Whether that matters is decided by
  the reader of the words: it may have refused the path before it gets there.
-/
import Gleaner.Json.Path.Basic
import Gleaner.Text.Digits
import Gleaner.Text.Split
import Gleaner.Decimal.Read

namespace Gleaner.Json.Path

inductive Token where
  | truth (b : Bool)
  | direction (down : Bool)
  | name (s : String)
  | quotedName (s : String)
  | whereWord
  | whereNotWord
  | decimal (x : Binary64)
  | number (n : Int)
  | operator (s : String)
  | descend
  | comparison (op : Comparison)
  | also
  | otherwise
  | sign (c : Char)
  /-- A whole number with too many digits. -/
  | oversized
  /-- What stands here is no word. -/
  | foreign
deriving DecidableEq, Repr, Inhabited

def nameStart (c : Char) : Bool := Text.asciiLetter c || c == '_'

def nameRest (c : Char) : Bool := nameStart c || Text.asciiDigit c || c == '@' || c == '-'

def nameToken (s : List Char) : Token :=
  if s = "where".toList then .whereWord
  else if s = "wherenot".toList then .whereNotWord
  else .name (String.ofList s)

/-- A name at the front of a text: a letter or underscore, perhaps after `@`, and
    what may continue it. -/
def name? (s : List Char) : Option (List Char × List Char) :=
  match s with
  | '@' :: c :: r =>
      if nameStart c then some ('@' :: c :: r.takeWhile nameRest, r.dropWhile nameRest) else none
  | c :: r =>
      if nameStart c then some (c :: r.takeWhile nameRest, r.dropWhile nameRest) else none
  | [] => none

/-- A number at the front of a text, with digits of any script. -/
def number? (s : List Char) : Option (Token × List Char) :=
  let (negative, t) := match s with
    | '-' :: t => (true, t)
    | t => (false, t)
  let ds := (t.takeWhile Text.isDigit).map Text.plainDigit
  if ds.isEmpty then none
  else
    let rest := t.dropWhile Text.isDigit
    let fs := match rest with
      | '.' :: r => (r.takeWhile Text.isDigit).map Text.plainDigit
      | _ => []
    if fs.isEmpty then
      if Text.maxDigits < ds.length then some (.oversized, rest)
      else some (.number (Binary64.signed negative (Text.decimalValue ds)), rest)
    else
      some (.decimal (Binary64.ofParts negative ds fs false []), rest.drop (fs.length + 1))

/-- A sort direction at the front of a text: a slash or backslash, perhaps after a
    comma and blanks. -/
def direction? (s : List Char) : Option (Bool × List Char) :=
  let t := match s with
    | ',' :: t => t
    | t => t
  match t.dropWhile Text.isBlank with
  | '/' :: r => some (false, r)
  | '\\' :: r => some (true, r)
  | _ => none

/-- The text up to the closing quote `q`; a backslash keeps the next character. -/
def quotedText? (q : Char) : List Char → List Char → Option (List Char × List Char)
  | _, [] => none
  | _, ['\\'] => none
  | acc, '\\' :: c :: r => if c = '\n' then none else quotedText? q (c :: acc) r
  | acc, c :: r => if c = q then some (acc.reverse, r) else quotedText? q (c :: acc) r

def pairToken? : Char → Char → Option Token
  | '.', '.' => some .descend
  | '=', '~' => some (.comparison .matching)
  | '=', '=' => some (.comparison .equal)
  | '<', '=' => some (.comparison .atMost)
  | '>', '=' => some (.comparison .atLeast)
  | '!', '=' => some (.comparison .unequal)
  | '&', '&' => some .also
  | '|', '|' => some .otherwise
  | _, _ => none

def signToken? (c : Char) : Option Token :=
  if c = '=' then some (.comparison .equal)
  else if c = '<' then some (.comparison .less)
  else if c = '>' then some (.comparison .greater)
  else if "*.[]()$,:|&~?@+/-!".toList.contains c then some (.sign c)
  else none

def anySign? : List Char → Option (Token × List Char)
  | [] => none
  | [c] => (signToken? c).map (·, [])
  | c :: d :: r =>
      match pairToken? c d with
      | some t => some (t, r)
      | none => (signToken? c).map (·, d :: r)

/-- The words `true` and `false`, also at the front of a longer name. -/
def truth? (s : List Char) : Option (Bool × List Char) :=
  match Text.dropFront? "true".toList s with
  | some r => some (true, r)
  | none => (Text.dropFront? "false".toList s).map (false, ·)

/-- The word at the front of a text that is neither empty nor starts with a blank. -/
def token? (s : List Char) : Option (Token × List Char) :=
  match truth? s with
  | some (b, r) => some (.truth b, r)
  | none =>
      match direction? s with
      | some (down, r) => some (.direction down, r)
      | none =>
          match name? s with
          | some (n, r) => some (nameToken n, r)
          | none =>
              match number? s with
              | some t => some t
              | none =>
                  match s with
                  | '\x27' :: r => (quotedText? '\x27' [] r).map fun (t, r) =>
                      (.quotedName (String.ofList t), r)
                  | '\x22' :: r => (quotedText? '\x22' [] r).map fun (t, r) =>
                      (.quotedName (String.ofList t), r)
                  | '\x60' :: r => (quotedText? '\x60' [] r).map fun (t, r) =>
                      (.operator (String.ofList t), r)
                  | s => anySign? s

def isGap (c : Char) : Bool := c == ' ' || c == '\t' || c == '\n'

/-- The words of a text; `fuel` exceeds its length. -/
def tokensFrom : Nat → List Char → List Token
  | 0, _ => []
  | fuel + 1, s =>
      match s.dropWhile isGap with
      | [] => []
      | t =>
          match token? t with
          | none => [.foreign]
          | some (w, r) => w :: tokensFrom fuel r

def tokens (s : List Char) : List Token := tokensFrom (s.length + 1) s

end Gleaner.Json.Path
