/-
  Gleaner/Json/Path/Parser.lean
  =============================
  **Reading paths.**  Steps are joined by `.` and, less tightly, by `..`; tighter
  than both bind `|`, `&` and the words `where` and `wherenot`; brackets bind to
  the step before them, and arithmetic takes all that stands on either side.

  A path can fail in two ways, and the first that is met counts: it is
  `malformed`, or it has a character that no path can have (`foreign`).
-/
import Gleaner.Json.Path.Lexer
import Gleaner.Pattern.Parser

namespace Gleaner.Json.Path

inductive Refusal where
  | malformed
  | foreign
deriving DecidableEq, Repr

abbrev Parsed (α : Type) := Except Refusal (α × List Token)

/-- How the next word counts when it is not the one expected. -/
def refuse {α : Type} : List Token → Except Refusal α
  | .foreign :: _ => .error .foreign
  | _ => .error .malformed

def arithmetic? : List Token → Option (Arithmetic × List Token)
  | .sign '+' :: r => some (.plus, r)
  | .sign '-' :: r => some (.minus, r)
  | .sign '*' :: r => some (.times, r)
  | _ => none

/-- How tightly a joining word binds, from 1, and what it makes of two paths. -/
def joint? : Token → Option (Nat × (Path → Path → Path))
  | .descend => some (1, .deep)
  | .sign '.' => some (2, .child)
  | .sign '|' => some (3, .union)
  | .sign '&' => some (4, .common)
  | .whereWord => some (5, .having true)
  | .whereNotWord => some (6, .having false)
  | _ => none

/-- One step that names a single member stands, in arithmetic, for its name. -/
def operandOf : Path → Operand
  | .fields [n] => .value (.str n)
  | .every => .value (.str "*")
  | p => .path p

/-! ### Named operators -/

/-- The written form of a split: separator, part, limit. -/
def splitForm : List Char :=
  ("split(?:\\s+)?\\((?:\\s+)?((?:(?:\x27|\x22))?)(.+)\\1(?:\\s+)?,(?:\\s+)?((?:(?:\\-)?\\d+|\\*))"
    ++ "(?:\\s+)?,(?:\\s+)?((?:\\-)?\\d+)(?:\\s+)?\\)").toList

/-- The written form of a replacement: pattern, text. -/
def replaceForm : List Char := "sub\\(/(.*)/,\\s+(.*)\\)".toList

def groupText (c : Pattern.Cursor) (index : Nat) : List Char := (c.group? index).getD []

def named? (s : String) : Option Path :=
  let cs := s.toList
  if s = "this" then some .this
  else if s = "parent" then some .parent
  else if s = "len" then some .count
  else if s = "keys" then some .names
  else if s = "path" then some .label
  else if s = "sorted" then some (.sort .done)
  else if Text.startsWith "split(".toList cs then do
    let form ← Pattern.parse? splitForm
    let m ← form.matchFront? cs
    let limit ← Text.parseInt? (String.ofList (groupText m 4))
    let part := groupText m 3
    let index ← if part = ['*'] then some none else (Text.parseInt? (String.ofList part)).map some
    some (.split (String.ofList (groupText m 2)) index limit)
  else if Text.startsWith "sub(".toList cs then do
    let form ← Pattern.parse? replaceForm
    let m ← form.matchFront? cs
    let pattern := Text.trimChars (groupText m 1)
    let _ ← Pattern.parse? pattern
    some (.replace (String.ofList pattern) (String.ofList (Text.trimChars (groupText m 2))))
  else if Text.startsWith "str(".toList cs then
    if Text.startsWith "str()".toList cs then some .shown else none
  else none

/-! ### Names and positions -/

def nameOf? : Token → Option String
  | .name n => some n
  | .quotedName n => some n
  | .truth b => some (if b then "true" else "false")
  | _ => none

def moreNames : List String → List Token → Parsed (List String)
  | acc, .sign ',' :: t :: r =>
      match nameOf? t with
      | some n => moreNames (n :: acc) r
      | none => refuse (t :: r)
  | _, [.sign ','] => refuse []
  | _, .foreign :: _ => .error .foreign
  | acc, ts => .ok (acc.reverse, ts)

def morePositions : List Int → List Token → Parsed Path
  | acc, .sign ',' :: .number n :: r => morePositions (n :: acc) r
  | _, .sign ',' :: r => refuse r
  | acc, .sign ']' :: r => .ok (.index acc.reverse, r)
  | _, ts => refuse ts

def optionalNumber : List Token → Option Int × List Token
  | .number n :: r => (some n, r)
  | ts => (none, ts)

def sliceRest (start : Option Int) (ts : List Token) : Parsed Path :=
  let (stop, r) := optionalNumber ts
  match r with
  | .sign ']' :: r => .ok (.slice start stop none, r)
  | .sign ':' :: r =>
      let (step, r) := optionalNumber r
      match r with
      | .sign ']' :: r => .ok (.slice start stop step, r)
      | r => refuse r
  | r => refuse r

/-- The end of an operand that is a value: nothing that continues a path. -/
def endsOperand : List Token → Bool
  | [] => true
  | .sign ')' :: _ => true
  | .sign ']' :: _ => true
  | .sign '&' :: _ => true
  | .sign '|' :: _ => true
  | .also :: _ => true
  | .otherwise :: _ => true
  | _ => false

/-- The value of a word that stands alone on the right of a comparison. -/
def literal? : Token → Option Json
  | .name n => some (if n = "null" then .null else .str n)
  | .quotedName n => some (.str n)
  | .truth b => some (.bool b)
  | .decimal x => some (.real x)
  | .number n => some (.int n)
  | _ => none

/-! ### Steps, joints and tests -/

mutual
def parseSum : Nat → List Token → Parsed Path
  | 0, _ => .error .malformed
  | fuel + 1, ts =>
      match parseJoined fuel 1 ts with
      | .error e => .error e
      | .ok (p, ts) => sumRest fuel p ts
def sumRest : Nat → Path → List Token → Parsed Path
  | 0, _, _ => .error .malformed
  | fuel + 1, p, ts =>
      match arithmetic? ts with
      | none => .ok (p, ts)
      | some (op, r) =>
          match parseOperand fuel r with
          | .error e => .error e
          | .ok (q, r) => .ok (.compute op (operandOf p) q, r)
def parseOperand : Nat → List Token → Parsed Operand
  | 0, _ => .error .malformed
  | fuel + 1, ts =>
      let path :=
        match parseSum fuel ts with
        | .error e => .error e
        | .ok (p, r) => .ok (operandOf p, r)
      match ts with
      | .number n :: r => if (arithmetic? r).isSome then path else .ok (.value (.int n), r)
      | .decimal x :: r => if (arithmetic? r).isSome then path else .ok (.value (.real x), r)
      | _ => path
/-- Steps joined by words that bind at least as tightly as `level`. -/
def parseJoined : Nat → Nat → List Token → Parsed Path
  | 0, _, _ => .error .malformed
  | fuel + 1, level, ts =>
      match parseStep fuel ts with
      | .error e => .error e
      | .ok (p, ts) => joinRest fuel level p ts
def joinRest : Nat → Nat → Path → List Token → Parsed Path
  | 0, _, _, _ => .error .malformed
  | _ + 1, _, p, [] => .ok (p, [])
  | fuel + 1, level, p, t :: r =>
      match joint? t with
      | none => if t = .foreign then .error .foreign else .ok (p, t :: r)
      | some (tightness, join) =>
          if tightness < level then .ok (p, t :: r)
          else
            match parseJoined fuel (tightness + 1) r with
            | .error e => .error e
            | .ok (q, r) => joinRest fuel level (join p q) r
/-- One step and the brackets after it. -/
def parseStep : Nat → List Token → Parsed Path
  | 0, _ => .error .malformed
  | fuel + 1, ts =>
      match parseAtom fuel ts with
      | .error e => .error e
      | .ok (p, ts) => bracketsAfter fuel p ts
def bracketsAfter : Nat → Path → List Token → Parsed Path
  | 0, _, _ => .error .malformed
  | fuel + 1, p, ts =>
      match ts with
      | .sign '[' :: r =>
          match parseBracket fuel r with
          | .error e => .error e
          | .ok (q, r) => bracketsAfter fuel (.child p q) r
      | .foreign :: _ => .error .foreign
      | ts => .ok (p, ts)
def parseAtom : Nat → List Token → Parsed Path
  | 0, _ => .error .malformed
  | fuel + 1, ts =>
      let computed (v : Json) (r : List Token) (otherwise : Parsed Path) : Parsed Path :=
        match arithmetic? r with
        | none => otherwise
        | some (op, r) =>
            match parseOperand fuel r with
            | .error e => .error e
            | .ok (q, r) => .ok (.compute op (.value v) q, r)
      match ts with
      | .sign '$' :: r => .ok (.root, r)
      | .sign '@' :: r => .ok (.this, r)
      | .sign '*' :: r => .ok (.every, r)
      | .sign '[' :: r => parseBracket fuel r
      | .sign '(' :: r =>
          match parseSum fuel r with
          | .error e => .error e
          | .ok (p, .sign ')' :: r) => .ok (p, r)
          | .ok (_, r) => refuse r
      | .operator s :: r =>
          match named? s with
          | some p => .ok (p, r)
          | none => .error .malformed
      | .number n :: r => computed (.int n) r (.ok (.fields [toString n], r))
      | .decimal x :: r => computed (.real x) r (refuse r)
      | t :: r =>
          match nameOf? t with
          | none => refuse (t :: r)
          | some n =>
              match moreNames [n] r with
              | .error e => .error e
              | .ok (ns, r) => .ok (.fields ns, r)
      | [] => refuse []
/-- What stands between brackets, up to and with the closing one. -/
def parseBracket : Nat → List Token → Parsed Path
  | 0, _ => .error .malformed
  | fuel + 1, ts =>
      match ts with
      | .sign '?' :: r =>
          match parseEither fuel r with
          | .error e => .error e
          | .ok (t, .sign ']' :: r) => .ok (.filter t, r)
          | .ok (_, r) => refuse r
      | .direction down :: r =>
          match parseSortKeys fuel down r with
          | .error e => .error e
          | .ok (ks, .sign ']' :: r) => .ok (.sort ks, r)
          | .ok (_, r) => refuse r
      | .sign '*' :: .sign ']' :: r => .ok (.every, r)
      | .sign '*' :: r => refuse r
      | .sign ':' :: r => sliceRest none r
      | .number n :: .sign ':' :: r => sliceRest (some n) r
      | .number n :: r => morePositions [n] r
      | t :: r =>
          match nameOf? t with
          | none => refuse (t :: r)
          | some n =>
              match moreNames [n] r with
              | .error e => .error e
              | .ok (ns, .sign ']' :: r) => .ok (.fields ns, r)
              | .ok (_, r) => refuse r
      | [] => refuse []
def parseSortKeys : Nat → Bool → List Token → Parsed SortKeys
  | 0, _, _ => .error .malformed
  | fuel + 1, down, ts =>
      match parseSum fuel ts with
      | .error e => .error e
      | .ok (p, .direction next :: r) =>
          match parseSortKeys fuel next r with
          | .error e => .error e
          | .ok (ks, r) => .ok (.key p down ks, r)
      | .ok (p, r) => .ok (.key p down .done, r)
def parseEither : Nat → List Token → Parsed Test
  | 0, _ => .error .malformed
  | fuel + 1, ts =>
      match parseBoth fuel ts with
      | .error e => .error e
      | .ok (s, .otherwise :: r) =>
          match parseEither fuel r with
          | .error e => .error e
          | .ok (t, r) => .ok (.either s t, r)
      | .ok (s, r) => .ok (s, r)
def parseBoth : Nat → List Token → Parsed Test
  | 0, _ => .error .malformed
  | fuel + 1, ts =>
      match parseTest fuel ts with
      | .error e => .error e
      | .ok (s, .also :: r) =>
          match parseBoth fuel r with
          | .error e => .error e
          | .ok (t, r) => .ok (.both s t, r)
      | .ok (s, .sign '&' :: r) =>
          match parseBoth fuel r with
          | .error e => .error e
          | .ok (t, r) => .ok (.both s t, r)
      | .ok (s, r) => .ok (s, r)
def parseTest : Nat → List Token → Parsed Test
  | 0, _ => .error .malformed
  | fuel + 1, ts =>
      match ts with
      | .sign '!' :: r =>
          match parseTest fuel r with
          | .error e => .error e
          | .ok (t, r) => .ok (.fails t, r)
      | .sign '(' :: r =>
          match parseEither fuel r with
          | .error e => .error e
          | .ok (.selects p, .sign ')' :: r) =>
              match bracketsAfter fuel p r with
              | .error e => .error e
              | .ok (p, r) =>
                  match joinRest fuel 1 p r with
                  | .error e => .error e
                  | .ok (p, r) => testOf fuel p r
          | .ok (t, .sign ')' :: r) => .ok (t, r)
          | .ok (_, r) => refuse r
      | ts =>
          match parseJoined fuel 1 ts with
          | .error e => .error e
          | .ok (p, r) => testOf fuel p r
def testOf : Nat → Path → List Token → Parsed Test
  | 0, _, _ => .error .malformed
  | fuel + 1, p, ts =>
      match sumRest fuel p ts with
      | .error e => .error e
      | .ok (p, .comparison op :: t :: r) =>
          match literal? t with
          | some v =>
              if endsOperand r then .ok (.compare op p (.value v), r)
              else comparePath fuel op p (t :: r)
          | none => comparePath fuel op p (t :: r)
      | .ok (_, [.comparison _]) => refuse []
      | .ok (p, r) => .ok (.selects p, r)
def comparePath : Nat → Comparison → Path → List Token → Parsed Test
  | 0, _, _, _ => .error .malformed
  | fuel + 1, op, p, ts =>
      match parseSum fuel ts with
      | .error e => .error e
      | .ok (q, r) => .ok (.compare op p (.path q), r)
end

def parse (s : List Char) : Except Refusal Path :=
  let ts := tokens s
  match parseSum (12 * ts.length + 12) ts with
  | .error e => .error e
  | .ok (p, []) => .ok p
  | .ok (_, ts) => refuse ts

end Gleaner.Json.Path
