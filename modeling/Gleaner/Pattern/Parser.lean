/-
  Gleaner/Pattern/Parser.lean
  ===========================
  **The written form of patterns.**  Alternatives between `|`, repetition by `*`,
  `+`, `?` and counts in braces, sets in brackets, groups in parentheses, and
  backslash escapes.  A text that is no pattern is refused.
-/
import Gleaner.Pattern.Basic

namespace Gleaner.Pattern

/-- What the parser knows of the pattern read so far. -/
structure Scope where
  groups : Nat
  names : List (List Char × Nat)
  fold : Bool
  dotAll : Bool
  lines : Bool

/-- A part of a pattern from the front of a text, with what follows it. -/
abbrev Parsed (α : Type) := Option (α × List Char × Scope)

def takeHex? (count : Nat) (s : List Char) : Option (Char × List Char) :=
  let ds := s.take count
  if ds.length = count ∧ ds.all Text.isHex then some (Char.ofNat (Text.hexNumber ds), s.drop count)
  else none

def classEscape? : Char → Option CharSet
  | 'd' => some .digit
  | 'D' => some (.compl .digit)
  | 's' => some .space
  | 'S' => some (.compl .space)
  | 'w' => some .word
  | 'W' => some (.compl .word)
  | _ => none

def letterEscape? : Char → Option Char
  | 'n' => some '\n'
  | 't' => some '\t'
  | 'r' => some '\r'
  | 'f' => some '\x0c'
  | 'v' => some '\x0b'
  | 'a' => some '\x07'
  | _ => none

/-- The character that an escape stands for, the backslash being read. -/
def charEscape? : List Char → Option (Char × List Char)
  | 'x' :: s => takeHex? 2 s
  | 'u' :: s => takeHex? 4 s
  | 'U' :: s => takeHex? 8 s
  | '0' :: s =>
      let ds := (s.take 2).takeWhile fun c => '0' ≤ c && c ≤ '7'
      some (Char.ofNat (ds.foldl (fun n c => 8 * n + (c.toNat - 48)) 0), s.drop ds.length)
  | c :: s =>
      match letterEscape? c with
      | some d => some (d, s)
      | none => if Text.asciiLetter c || Text.asciiDigit c then none else some (c, s)
  | [] => none

def setAtom? : List Char → Option (CharSet × List Char)
  | '\\' :: c :: s =>
      match classEscape? c with
      | some cls => some (cls, s)
      | none =>
          if c = 'b' then some (.one '\x08', s)
          else (charEscape? (c :: s)).map fun (d, r) => (.one d, r)
  | ['\\'] => none
  | c :: s => some (.one c, s)
  | [] => none

def setParts? : Nat → Bool → List Char → List CharSet → Option (List CharSet × List Char)
  | 0, _, _, _ => none
  | fuel + 1, first, s, acc =>
      match s with
      | [] => none
      | ']' :: r => if first then setTail fuel acc (.one ']') r else some (acc.reverse, r)
      | s =>
          match setAtom? s with
          | none => none
          | some (a, r) => setTail fuel acc a r
where
  setTail (fuel : Nat) (acc : List CharSet) (a : CharSet) (r : List Char) :=
    match r with
    | '-' :: ']' :: r => some (((.one '-') :: a :: acc).reverse, r)
    | '-' :: r =>
        match setAtom? r, a with
        | some (.one hi, r), .one lo =>
            if hi < lo then none else setParts? fuel false r (.range lo hi :: acc)
        | _, _ => none
    | r => setParts? fuel false r (a :: acc)

/-- A count in braces: least, most, and what follows. -/
def braceCount? (s : List Char) : Option (Nat × Option Nat × List Char) :=
  let ds := s.takeWhile Text.asciiDigit
  match s.dropWhile Text.asciiDigit with
  | '\x7d' :: r =>
      if ds.isEmpty then none else some (Text.decimalValue ds, some (Text.decimalValue ds), r)
  | ',' :: r =>
      let es := r.takeWhile Text.asciiDigit
      match r.dropWhile Text.asciiDigit with
      | '\x7d' :: r =>
          some (Text.decimalValue ds, if es.isEmpty then none else some (Text.decimalValue es), r)
      | _ => none
  | _ => none

def quantifier? : List Char → Option (Nat × Option Nat × List Char)
  | '*' :: r => some (0, none, r)
  | '+' :: r => some (1, none, r)
  | '?' :: r => some (0, some 1, r)
  | '\x7b' :: r => braceCount? r
  | _ => none

/-- The number of characters a pattern matches, if it is always the same. -/
def width? : Pattern → Option Nat
  | .empty => some 0
  | .set _ _ => some 1
  | .anchor _ => some 0
  | .seq p q => do return (← width? p) + (← width? q)
  | .alt p q => do
      let m ← width? p
      let n ← width? q
      if m = n then some m else none
  | .rep p least most _ => do
      let w ← width? p
      if most = some least then some (w * least) else none
  | .group _ p => width? p
  | .again _ _ => none
  | .ahead _ _ => some 0
  | .behind _ _ _ => some 0

def applyFlag (sc : Scope) : Char → Option Scope
  | 'i' => some { sc with fold := true }
  | 's' => some { sc with dotAll := true }
  | 'm' => some { sc with lines := true }
  | 'u' => some sc
  | _ => none

/-- Repetition signs after an atom; a second sign on the same atom is refused. -/
def repeated (p : Pattern) (s : List Char) (sc : Scope) : Parsed Pattern :=
  match quantifier? s with
  | none => some (p, s, sc)
  | some (least, most, r) =>
      if most.any (fun n => decide (n < least)) then none
      else
        let (q, r) := match r with
          | '?' :: r => (Pattern.rep p least most false, r)
          | r => (Pattern.rep p least most true, r)
        if (quantifier? r).isSome then none else some (q, r, sc)

mutual
def parseAlternatives : Nat → List Char → Scope → Parsed Pattern
  | 0, _, _ => none
  | fuel + 1, s, sc =>
      match parseSequence fuel s sc with
      | none => none
      | some (p, '|' :: r, sc) =>
          (parseAlternatives fuel r sc).map fun (q, r, sc) => (.alt p q, r, sc)
      | some (p, r, sc) => some (p, r, sc)
def parseSequence : Nat → List Char → Scope → Parsed Pattern
  | 0, _, _ => none
  | fuel + 1, s, sc =>
      match s with
      | [] => some (.empty, [], sc)
      | '|' :: _ => some (.empty, s, sc)
      | ')' :: _ => some (.empty, s, sc)
      | s =>
          match parseAtom fuel s sc with
          | none => none
          | some (p, r, sc) =>
              match repeated p r sc with
              | none => none
              | some (p, r, sc) =>
                  (parseSequence fuel r sc).map fun (q, r, sc) => (.seq p q, r, sc)
def parseAtom : Nat → List Char → Scope → Parsed Pattern
  | 0, _, _ => none
  | fuel + 1, s, sc =>
      match s with
      | [] => none
      | '.' :: r => some (.set false (if sc.dotAll then .all else .lineless), r, sc)
      | '^' :: r => some (.anchor (if sc.lines then .lineStart else .textStart), r, sc)
      | '$' :: r => some (.anchor (if sc.lines then .lineEnd else .lastLineEnd), r, sc)
      | '[' :: '^' :: r =>
          (setParts? (r.length + 1) true r []).map fun (cs, r) =>
            (.set sc.fold (.compl (.union cs)), r, sc)
      | '[' :: r =>
          (setParts? (r.length + 1) true r []).map fun (cs, r) => (.set sc.fold (.union cs), r, sc)
      | '(' :: '?' :: ':' :: r => closed fuel r sc fun p => some p
      | '(' :: '?' :: '=' :: r => closed fuel r sc fun p => some (.ahead true p)
      | '(' :: '?' :: '!' :: r => closed fuel r sc fun p => some (.ahead false p)
      | '(' :: '?' :: '<' :: '=' :: r =>
          closed fuel r sc fun p => (width? p).map fun w => .behind true w p
      | '(' :: '?' :: '<' :: '!' :: r =>
          closed fuel r sc fun p => (width? p).map fun w => .behind false w p
      | '(' :: '?' :: 'P' :: '<' :: r =>
          let name := r.takeWhile Text.isWordChar
          match r.dropWhile Text.isWordChar with
          | '>' :: r =>
              let index := sc.groups + 1
              closed fuel r { sc with groups := index, names := (name, index) :: sc.names }
                fun p => some (.group index p)
          | _ => none
      | '(' :: '?' :: 'P' :: '=' :: r =>
          let name := r.takeWhile Text.isWordChar
          match r.dropWhile Text.isWordChar, sc.names.find? (·.1 == name) with
          | ')' :: r, some (_, index) => some (.again sc.fold index, r, sc)
          | _, _ => none
      | '(' :: '?' :: r =>
          match (r.takeWhile Text.asciiLetter).foldlM applyFlag sc,
            r.dropWhile Text.asciiLetter with
          | some sc', ')' :: r => some (.empty, r, sc')
          | some sc', ':' :: r =>
              (closed fuel r sc' fun p => some p).map fun (p, r, sc'') =>
                (p, r, { sc'' with fold := sc.fold, dotAll := sc.dotAll, lines := sc.lines })
          | _, _ => none
      | '(' :: r =>
          let index := sc.groups + 1
          closed fuel r { sc with groups := index } fun p => some (.group index p)
      | '*' :: _ => none
      | '+' :: _ => none
      | '?' :: _ => none
      | ')' :: _ => none
      | '\\' :: 'A' :: r => some (.anchor .textStart, r, sc)
      | '\\' :: 'Z' :: r => some (.anchor .textEnd, r, sc)
      | '\\' :: 'b' :: r => some (.anchor .wordEdge, r, sc)
      | '\\' :: 'B' :: r => some (.anchor .insideWord, r, sc)
      | '\\' :: c :: r =>
          match classEscape? c with
          | some cls => some (.set false cls, r, sc)
          | none =>
              if '1' ≤ c && c ≤ '9' then
                let ds := c :: (r.take 1).takeWhile Text.asciiDigit
                let index := Text.decimalValue ds
                if index ≤ sc.groups then some (.again sc.fold index, r.drop (ds.length - 1), sc)
                else none
              else (charEscape? (c :: r)).map fun (d, r) => (.set sc.fold (.one d), r, sc)
      | ['\\'] => none
      | c :: r => some (.set sc.fold (.one c), r, sc)
def closed : Nat → List Char → Scope → (Pattern → Option Pattern) → Parsed Pattern
  | 0, _, _, _ => none
  | fuel + 1, s, sc, f =>
      match parseAlternatives fuel s sc with
      | some (p, ')' :: r, sc) => (f p).map fun q => (q, r, sc)
      | _ => none
end

def parse? (s : List Char) : Option Pattern :=
  match parseAlternatives (6 * s.length + 8) s ⟨0, [], false, false, false⟩ with
  | some (p, [], _) => some p
  | _ => none

end Gleaner.Pattern
