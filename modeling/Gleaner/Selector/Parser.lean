/-
  Gleaner/Selector/Parser.lean
  ============================
  **Reading selectors.**  A list of selectors has commas between its alternatives.
  An alternative is a chain of compounds joined by combinators; it is read as the
  condition of its last compound, which the compounds before it extend along an
  axis.  In a relative list the chain starts at the element in question and runs the
  other way.
-/
import Gleaner.Selector.Basic
import Gleaner.Selector.Word
import Gleaner.Text.Case

namespace Gleaner.Selector

/-! ### Lists in the making -/

inductive ListKind where
  /-- A whole selector. -/
  | outermost
  /-- A list in brackets. -/
  | inner
  /-- A list in brackets that may have empty places. -/
  | lenient
  /-- A list in brackets whose chains start at the element in question. -/
  | relative
deriving DecidableEq, Repr

/-- The parts of a compound, last first. -/
structure Compound where
  parts : List Selector
  mentioned : List Mention

def Compound.empty : Compound := ⟨[], []⟩

/-- The condition that a compound states, `more` included. -/
def Compound.toSelector (c : Compound) (more : List Selector) : Selector :=
  let mentioned := if c.mentioned.isEmpty then [] else [Selector.mentions c.mentioned.reverse]
  .all (c.parts.reverse ++ more ++ mentioned)

/-- A list in the making: the compound being read, whether it has any part, the
    alternatives read so far, last first, and what the compound is joined to.  In a
    relative list `chain` holds the compounds before it, last first, and `lead` is the
    axis on which the compound lies; elsewhere `left` is the chain before it.
    `inDocument` says that some part looks at documents of its own kind only. -/
structure Draft where
  compound : Compound
  filled : Bool
  alternatives : List Selector
  left : Option (Axis × Selector)
  chain : List (Axis × Compound)
  lead : Axis
  inDocument : Bool

namespace Draft

def start : Draft := ⟨.empty, false, [], none, [], .descendant, false⟩

def add (d : Draft) (s : Selector) : Draft :=
  { d with compound := { d.compound with parts := s :: d.compound.parts }, filled := true }

def mention (d : Draft) (m : Mention) : Draft :=
  { d with compound := { d.compound with mentioned := m :: d.compound.mentioned }, filled := true }

/-- The compound with the chain before it. -/
def joined (d : Draft) : Selector :=
  d.compound.toSelector (match d.left with
    | none => []
    | some (axis, s) => [.near axis s])

/-- The condition of a chain that starts at the element in question; `after` is what
    follows the compounds given, last first. -/
def ofChain (after : List Selector) : List (Axis × Compound) → List Selector
  | [] => after
  | (axis, c) :: before => ofChain [.near axis (c.toSelector after)] before

def next (d : Draft) (s : Selector) : Draft :=
  { d with compound := .empty, filled := false, alternatives := s :: d.alternatives,
           left := none, chain := [], lead := .descendant }

def relativeAlternative (d : Draft) : Selector :=
  .all (ofChain [] ((d.lead, d.compound) :: d.chain))

def conclude (kind : ListKind) (d : Draft) : Except Refusal Selector :=
  let whole (last : Selector) : Selector :=
    let s := Selector.any (last :: d.alternatives).reverse
    if d.inDocument then .inDocument s else s
  if d.filled then .ok (whole (if kind = .relative then d.relativeAlternative else d.joined))
  else if kind = .lenient && (d.alternatives.isEmpty || d.left.isNone) then .ok (whole never)
  else .error .malformed

def comma (kind : ListKind) (d : Draft) : Except Refusal Draft :=
  if d.filled then .ok (d.next (if kind = .relative then d.relativeAlternative else d.joined))
  else if kind = .lenient then .ok (d.next never)
  else .error .malformed

/-- Read a combinator in a list that is not relative; `axis` leads back to the
    compound before it. -/
def combine (d : Draft) (axis : Axis) : Except Refusal Draft :=
  if d.filled then
    .ok { d with compound := .empty, filled := false, left := some (axis, d.joined) }
  else .error .malformed

/-- Read a combinator in a relative list; `axis` leads on to the compound after it. -/
def combineRelative (d : Draft) (axis : Axis) : Except Refusal Draft :=
  if d.filled then
    .ok { d with compound := .empty, filled := false, chain := (d.lead, d.compound) :: d.chain,
                 lead := axis }
  else if d.lead = .descendant then .ok { d with lead := axis }
  else .error .malformed

end Draft

/-! ### Parts -/

inductive Joint where
  | comma
  | inside
  | directly
  | after
  | rightAfter
deriving DecidableEq, Repr

def Joint.ofChar? : Char → Option Joint
  | ',' => some .comma
  | '>' => some .directly
  | '~' => some .after
  | '+' => some .rightAfter
  | _ => none

/-- A sign with blanks and comments around it, or a blank before something that is no
    sign; each blank or comment takes a character, which `fuel` counts. -/
def joint? : Nat → List Char → Option (Joint × List Char)
  | 0, _ => none
  | _, [] => none
  | fuel + 1, c :: s =>
      match Joint.ofChar? c with
      | some j => some (j, skip s)
      | none =>
          match blank? (c :: s) with
          | some r =>
              if ((r.head?).bind Joint.ofChar?).isSome then joint? fuel r
              else some (.inside, skip r)
          | none =>
              match comment? (c :: s) with
              | some r => joint? fuel r
              | none => none

def nameOrAny? : List Char → Option (List Char × List Char)
  | '*' :: s => some (['*'], s)
  | s => name? s

def space? (s : List Char) : Option (List Char × List Char) :=
  match s with
  | '|' :: r => some ([], r)
  | _ =>
      match nameOrAny? s with
      | some (raw, '|' :: r) => some (raw, r)
      | _ => none

/-- The name of an element as it is written, with its name space. -/
def elementName? (s : List Char) : Option (Option (List Char) × List Char × List Char) :=
  let plain := (nameOrAny? s).map fun (raw, rest) => (none, raw, rest)
  match space? s with
  | some (space, r) =>
      match nameOrAny? r with
      | some (raw, rest) => some (some space, raw, rest)
      | none => plain
  | none => plain

def nameText (raw : List Char) : Except Refusal String := (unescape false raw).map String.ofList

/-- The sign of a comparison and the text after it: the relation, and whether it is
    denied. -/
def relation? : List Char → Option (Relation × Bool × List Char)
  | '=' :: s => some (.equal, false, s)
  | '!' :: '=' :: s => some (.equal, true, s)
  | '~' :: '=' :: s => some (.hasWord, false, s)
  | '^' :: '=' :: s => some (.startsWith, false, s)
  | '|' :: '=' :: s => some (.hasLead, false, s)
  | '*' :: '=' :: s => some (.contains, false, s)
  | '$' :: '=' :: s => some (.endsWith, false, s)
  | _ => none

/-- The comparison in an attribute test, as far as the closing bracket: the relation,
    whether it is denied, the value as it is written, and the letter for the case. -/
structure RawTest where
  relation : Relation
  denied : Bool
  value : List Char
  caseLetter : Option Char

def bracket? (s : List Char) : Option (List Char) :=
  match skip s with
  | ']' :: r => some r
  | _ => none

def rawTest? (s : List Char) : Option (RawTest × List Char) :=
  match relation? (skip s) with
  | none => none
  | some (relation, denied, r) =>
      match value? (skip r) with
      | none => none
      | some (value, r) =>
          match bracket? r with
          | some rest => some (⟨relation, denied, value, none⟩, rest)
          | none =>
              match skip r with
              | c :: r =>
                  let letter := Text.asciiLowerChar c
                  if letter == 'i' || letter == 's' then
                    (bracket? r).map fun rest => (⟨relation, denied, value, some letter⟩, rest)
                  else none
              | [] => none

def attributeRest? (s : List Char) : Option (Option RawTest × List Char) :=
  match rawTest? s with
  | some (t, rest) => some (some t, rest)
  | none => (bracket? s).map (none, ·)

/-- An attribute test after its opening bracket: the name as it is written, the
    comparison, and the rest.  A name space has no effect. -/
def rawAttribute? (s : List Char) : Option (List Char × Option RawTest × List Char) :=
  let body := skip s
  let named (s : List Char) : Option (List Char × Option RawTest × List Char) :=
    match name? s with
    | some (raw, r) => (attributeRest? r).map fun (t, rest) => (raw, t, rest)
    | none => none
  match (space? body).bind fun (_, r) => named r with
  | some found => some found
  | none => named body

def ofRawAttribute (raw : List Char) (test : Option RawTest) : Except Refusal Selector :=
  match nameText raw with
  | .error e => .error e
  | .ok name =>
      match test with
      | none => .ok (.hasAttribute name none)
      | some t =>
          (valueText t.value).map fun text =>
            let ignoresCase :=
              match t.caseLetter with
              | some letter => letter == 'i'
              | none => Text.asciiLower name == "type"
            let s := Selector.hasAttribute name (some ⟨t.relation, text, ignoresCase⟩)
            if t.denied then .not s else s

/-! ### Positions -/

def count (digits : List Char) : Except Refusal Int :=
  if Text.maxDigits < digits.length then .error (.tooManyDigits digits.length)
  else .ok (Text.decimalValue digits)

/-- A sign, if there is one, as a factor, and the rest. -/
def sign : List Char → Int × List Char
  | '-' :: s => (-1, s)
  | '+' :: s => (1, s)
  | s => (1, s)

/-- The letter that stands for every number. -/
def isStepLetter (c : Char) : Bool := c == 'n' || c == 'N'

def numericPositions? (s : List Char) : Except Refusal (Option (Positions × List Char)) :=
  let (factor, r) := sign s
  let digits := r.takeWhile Text.asciiDigit
  let afterDigits := r.drop digits.length
  match afterDigits with
  | c :: afterStep =>
      if isStepLetter c then
        let step : Except Refusal Int := if digits.isEmpty then .ok 1 else count digits
        match step with
        | .error e => .error e
        | .ok step =>
            let plain := some (⟨some (factor * step), 0⟩, afterStep)
            match skip afterStep with
            | d :: afterSign =>
                let offset := (skip afterSign).takeWhile Text.asciiDigit
                if (d == '+' || d == '-') && !offset.isEmpty then
                  (count offset).map fun n =>
                    some (⟨some (factor * step), if d == '-' then -n else n⟩,
                      (skip afterSign).drop offset.length)
                else .ok plain
            | [] => .ok plain
      else if digits.isEmpty then .ok none
      else (count digits).map fun n => some (⟨none, factor * n⟩, afterDigits)
  | [] =>
      if digits.isEmpty then .ok none
      else (count digits).map fun n => some (⟨none, factor * n⟩, afterDigits)

def word? (word : String) (s : List Char) : Option (List Char) :=
  let n := word.length
  if Text.asciiLowerChars (s.take n) = word.toList then some (s.drop n) else none

def positions? (s : List Char) : Except Refusal (Option (Positions × List Char)) :=
  match numericPositions? s with
  | .error e => .error e
  | .ok (some found) => .ok (some found)
  | .ok none =>
      match word? "even" s with
      | some r => .ok (some (⟨some 2, 0⟩, r))
      | none => .ok ((word? "odd" s).map (⟨some 2, 1⟩, ·))

/-- The text after the word `of` with blanks on both sides, comments allowed. -/
def among? (s : List Char) : Option (List Char) :=
  let spaced (s : List Char) : Option (List Char) := (blank? (skipComments s.length s)).map skip
  match spaced s with
  | some r =>
      match word? "of" r with
      | some r => spaced r
      | none => none
  | none => none

/-! ### Lists -/

def Joint.back : Joint → Axis
  | .directly => .parent
  | .after => .earlier
  | .rightAfter => .previous
  | _ => .ancestor

/-- The axis from a compound on to the one after a joint. -/
def Joint.onward : Joint → Axis
  | .directly => .child
  | .after => .later
  | .rightAfter => .next
  | _ => .descendant

def Draft.join (d : Draft) (kind : ListKind) : Joint → Except Refusal Draft
  | .comma => d.comma kind
  | j => if kind = .relative then d.combineRelative j.onward else d.combine j.back

/-- What a condition in brackets with the given name does with its list: the kind of
    the list, and how its condition counts. -/
def listState? : String → Option (ListKind × (Selector → Selector))
  | ":not" => some (.inner, .not)
  | ":has" => some (.relative, id)
  | ":is" | ":where" => some (.lenient, id)
  | ":matches" | ":contains" | ":-soup-contains" | ":-soup-contains-own" => some (.inner, id)
  | name => if liveFunctions.contains name then some (.inner, fun _ => never) else none

def plainState (d : Draft) (name : String) : Except Refusal Draft :=
  if name == ":defined" then .ok { d.add .isKnown with inDocument := true }
  else if liveStates.contains name then .ok (d.add never)
  else
    match state? name with
    | some s => .ok (d.add s)
    | none => .error .malformed

/-- The name of a state with brackets that takes no list: mentions, languages and
    directions.  The rest follows the closing bracket. -/
def special? (d : Draft) (name : String) (s : List Char) :
    Except Refusal (Option (Draft × List Char)) :=
  let values : Option (List Char × List Char) :=
    match valuesRest? s.length s with
    | some r => (closing? r).map fun rest => (taken s r, rest)
    | none => none
  if [":contains", ":-soup-contains", ":-soup-contains-own"].contains name then
    match values with
    | none => .ok none
    | some (raw, rest) =>
        match unescape false raw with
        | .error e => .error e
        | .ok plain =>
            (valuesIn plain.length plain).map fun texts =>
              some (d.mention ⟨name == ":-soup-contains-own", texts⟩, rest)
  else if name == ":lang" then
    match values with
    | none => .ok none
    | some (raw, rest) =>
        (valuesIn raw.length raw).map fun ranges => some (d.add (.speaks ranges), rest)
  else if name == ":dir" then
    let direction (word : String) (direction : Direction) : Option (Draft × List Char) :=
      (word? word s).bind fun r => (closing? r).map fun rest =>
        ({ d.add (.runs direction) with inDocument := true }, rest)
    match direction "ltr" .leftToRight with
    | some found => .ok (some found)
    | none => .ok (direction "rtl" .rightToLeft)
  else .ok none

/-- How positions are counted by the state of a name: by name, and from the end. -/
def positionState? : String → Option (Bool × Bool)
  | ":nth-child" => some (false, false)
  | ":nth-last-child" => some (false, true)
  | ":nth-of-type" => some (true, false)
  | ":nth-last-of-type" => some (true, true)
  | _ => none

inductive ListStep where
  | part (d : Draft) (rest : List Char)
  /-- A list in brackets follows, whose condition goes into a part. -/
  | opens (kind : ListKind) (wrap : Selector → Selector) (rest : List Char)
  /-- The list ends. -/
  | closes (rest : List Char)

/-- A state with brackets; `s` follows the opening bracket. -/
def stateWithBrackets (d : Draft) (name : String) (s : List Char) : Except Refusal ListStep :=
  match special? d name s with
  | .error e => .error e
  | .ok (some (d, rest)) => .ok (.part d rest)
  | .ok none =>
      match positionState? name with
      | some (sameName, fromEnd) =>
          match positions? s with
          | .error e => .error e
          | .ok none => .error .malformed
          | .ok (some (at_, r)) =>
              match closing? r with
              | some rest => .ok (.part (d.add (.position at_ sameName fromEnd always)) rest)
              | none =>
                  match among? r with
                  | some rest =>
                      if sameName then .error .malformed
                      else .ok (.opens .inner (.position at_ sameName fromEnd) rest)
                  | none => .error .malformed
      | none =>
          match listState? name with
          | some (kind, wrap) => .ok (.opens kind wrap s)
          | none => .error .malformed

/-- A state; `s` follows its colon, and `index` is the place of the colon. -/
def stateStep (index : Nat) (d : Draft) (s : List Char) : Except Refusal ListStep :=
  match name? s with
  | some (raw, r) =>
      match nameText raw with
      | .error e => .error e
      | .ok name =>
          let name := ":" ++ Text.asciiLower name
          match r with
          | '(' :: r => stateWithBrackets d name (skip r)
          | _ => (plainState d name).map (.part · r)
  | none =>
      match s with
      | ':' :: r => if (name? r).isSome then .error (.pseudoElement index) else .error .malformed
      | _ => .error .malformed

/-- Read one part, a joint or the end of a list; `index` is the place in the whole
    text. -/
def listStep (kind : ListKind) (index : Nat) (d : Draft) (s : List Char) :
    Except Refusal ListStep :=
  match closing? s with
  | some rest =>
      if kind = .outermost then .error .malformed
      else if !d.filled && kind ≠ .lenient then .error .malformed
      else .ok (.closes rest)
  | none =>
      match s with
      | ':' :: r => stateStep index d r
      | '&' :: r => .ok (.part (d.add .isScope) r)
      | '#' :: r =>
          match name? r with
          | some (raw, rest) => (nameText raw).map fun name => .part (d.add (.hasId name)) rest
          | none => .error .malformed
      | '.' :: r =>
          match name? r with
          | some (raw, rest) => (nameText raw).map fun name => .part (d.add (.hasClass name)) rest
          | none => .error .malformed
      | '[' :: r =>
          match rawAttribute? r with
          | some (raw, test, rest) => (ofRawAttribute raw test).map fun s => .part (d.add s) rest
          | none => .error .malformed
      | _ =>
          match elementName? s with
          | some (space, raw, rest) =>
              if d.filled then .error .malformed
              else
                match space.mapM nameText, nameText raw with
                | .ok space, .ok name => .ok (.part (d.add (.named space name)) rest)
                | .error e, _ => .error e
                | _, .error e => .error e
          | none =>
              match joint? (s.length + 1) s with
              | some (j, rest) => (d.join kind j).map (.part · rest)
              | none => .error .malformed

/-- Read a list as far as its end; `total` is the length of the whole text, of which
    the last `tail` characters do not count.  Every step takes a character, which
    `fuel` counts. -/
def list (total tail : Nat) : Nat → ListKind → Draft → List Char →
    Except Refusal (Selector × List Char)
  | 0, _, _, _ => .error .malformed
  | fuel + 1, kind, d, s =>
      if s.length ≤ tail then
        if kind = .outermost then (d.conclude kind).map (·, s) else .error .malformed
      else
        match listStep kind (total - s.length) d s with
        | .error e => .error e
        | .ok (.part d rest) => list total tail fuel kind d rest
        | .ok (.closes rest) => (d.conclude kind).map (·, rest)
        | .ok (.opens nested wrap rest) =>
            match list total tail fuel nested .start rest with
            | .error e => .error e
            | .ok (s, rest) => list total tail fuel kind (d.add (wrap s)) rest

def parse (text : String) : Except Refusal Selector :=
  let s := text.toList.map fun c => if c = '\x00' then '\uFFFD' else c
  let tail := trailing s
  (list s.length tail (s.length + 1) .outermost .start (skip s)).map (·.1)

end Gleaner.Selector
