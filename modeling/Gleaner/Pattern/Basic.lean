/-
  Gleaner/Pattern/Basic.lean
  ==========================
  **Text patterns and how they match.**  A pattern is matched from the left with
  the first choice first: repetition takes as much as it can unless it is lazy,
  and gives back what the rest of the pattern needs.  `search?` finds the
  leftmost match of a text, `replaceMatches` rewrites all of them.
-/
import Gleaner.Text.Word
import Gleaner.Text.Case

namespace Gleaner

inductive CharSet where
  | one (c : Char)
  | range (lo hi : Char)
  | digit
  | space
  | word
  | all
  | lineless
  | union (parts : List CharSet)
  | compl (s : CharSet)
deriving Repr, Inhabited

mutual
/-- The character belongs to the set; `fold` ignores case. -/
def CharSet.has (fold : Bool) (c : Char) : CharSet → Bool
  | .one d => c == d || (fold && Text.lowerChar c == Text.lowerChar d)
  | .range lo hi =>
      (lo ≤ c && c ≤ hi)
        || (fold && ((lo ≤ Text.lowerChar c && Text.lowerChar c ≤ hi)
          || (lo ≤ c.toUpper && c.toUpper ≤ hi)))
  | .digit => (Text.digitValue? c).isSome
  | .space => Text.isBlank c
  | .word => Text.isWordChar c
  | .all => true
  | .lineless => c != '\n'
  | .union parts => CharSet.anyHas fold c parts
  | .compl s => !(s.has fold c)
def CharSet.anyHas (fold : Bool) (c : Char) : List CharSet → Bool
  | [] => false
  | s :: ss => s.has fold c || CharSet.anyHas fold c ss
end

/-- Where a pattern may stand that matches no character. -/
inductive Anchor where
  | textStart
  | textEnd
  /-- At the end, or before a line feed that ends the text. -/
  | lastLineEnd
  | lineStart
  | lineEnd
  | wordEdge
  | insideWord
deriving DecidableEq, Repr

inductive Pattern where
  | empty
  | set (fold : Bool) (s : CharSet)
  | anchor (a : Anchor)
  | seq (p q : Pattern)
  | alt (p q : Pattern)
  /-- At least `least` and at most `most` times; as often as possible if `greedy`. -/
  | rep (p : Pattern) (least : Nat) (most : Option Nat) (greedy : Bool)
  | group (index : Nat) (p : Pattern)
  | again (fold : Bool) (index : Nat)
  /-- What follows matches (`wanted`), or does not. -/
  | ahead (wanted : Bool) (p : Pattern)
  /-- The `width` characters before this place match, or do not. -/
  | behind (wanted : Bool) (width : Nat) (p : Pattern)
deriving Repr, Inhabited

namespace Pattern

/-- A place in a text while matching: what was read, in reverse, what follows, and
    the text of each group. -/
structure Cursor where
  before : List Char
  rest : List Char
  groups : List (Nat × List Char)

def Cursor.group? (c : Cursor) (index : Nat) : Option (List Char) :=
  (c.groups.find? (·.1 == index)).map (·.2)

def Cursor.readText? (fold : Bool) : List Char → Cursor → Option Cursor
  | [], c => some c
  | x :: w, c =>
      match c.rest with
      | [] => none
      | y :: rest =>
          if (CharSet.one x).has fold y then
            Cursor.readText? fold w { c with before := y :: c.before, rest := rest }
          else none

def fits (c : Cursor) : Anchor → Bool
  | .textStart => c.before.isEmpty
  | .textEnd => c.rest.isEmpty
  | .lastLineEnd => c.rest.isEmpty || c.rest == ['\n']
  | .lineStart => c.before.isEmpty || c.before.head? == some '\n'
  | .lineEnd => c.rest.isEmpty || c.rest.head? == some '\n'
  | .wordEdge => edge
  | .insideWord => !edge
where
  edge : Bool :=
    (c.before.head?.map Text.isWordChar).getD false != (c.rest.head?.map Text.isWordChar).getD false

/-- Match `p` at a place and continue with `k`; `fuel` bounds the recursion. -/
def run : Nat → Pattern → Cursor → (Cursor → Option Cursor) → Option Cursor
  | 0, _, _, _ => none
  | fuel + 1, p, c, k =>
      match p with
      | .empty => k c
      | .set fold s =>
          match c.rest with
          | [] => none
          | x :: rest =>
              if s.has fold x then k { c with before := x :: c.before, rest := rest } else none
      | .anchor a => if fits c a then k c else none
      | .seq p q => run fuel p c fun d => run fuel q d k
      | .alt p q =>
          match run fuel p c k with
          | some d => some d
          | none => run fuel q c k
      | .rep p least most greedy =>
          let once (least' : Nat) :=
            run fuel p c fun d =>
              if least = 0 ∧ d.rest.length = c.rest.length then none
              else run fuel (.rep p least' (most.map (· - 1)) greedy) d k
          if 0 < least then once (least - 1)
          else if most = some 0 then k c
          else if greedy then
            match once 0 with
            | some d => some d
            | none => k c
          else
            match k c with
            | some d => some d
            | none => once 0
      | .group index p =>
          run fuel p c fun d =>
            k { d with groups :=
                  (index, (d.before.take (d.before.length - c.before.length)).reverse)
                    :: d.groups.filter (·.1 != index) }
      | .again fold index =>
          match c.group? index with
          | none => none
          | some w =>
              match Cursor.readText? fold w c with
              | some d => k d
              | none => none
      | .ahead wanted p =>
          match run fuel p c some with
          | some d => if wanted then k { c with groups := d.groups } else none
          | none => if wanted then none else k c
      | .behind wanted width p =>
          let start : Option Cursor :=
            if c.before.length < width then none
            else some { c with before := c.before.drop width,
                               rest := (c.before.take width).reverse ++ c.rest }
          let found := match start with
            | none => false
            | some s =>
                (run fuel p s fun d =>
                  if d.rest.length = c.rest.length then some d else none).isSome
          if found == wanted then k c else none

def size : Pattern → Nat
  | .seq p q => p.size + q.size + 1
  | .alt p q => p.size + q.size + 1
  | .rep p least _ _ => p.size * (least + 1) + 2
  | .group _ p => p.size + 1
  | .ahead _ p => p.size + 1
  | .behind _ _ p => p.size + 1
  | _ => 1

def fuelFor (p : Pattern) (length : Nat) : Nat := 4 * (p.size + 2) * (length + 2)

def matchAt? (p : Pattern) (fuel : Nat) (c : Cursor) : Option Cursor := run fuel p c some

/-- The leftmost match at or after a place: where it starts and where it ends. -/
def searchFrom? (p : Pattern) (fuel : Nat) : List Char → List Char → Option (Cursor × Cursor)
  | before, [] => (matchAt? p fuel ⟨before, [], []⟩).map (⟨before, [], []⟩, ·)
  | before, c :: rest =>
      match matchAt? p fuel ⟨before, c :: rest, []⟩ with
      | some d => some (⟨before, c :: rest, []⟩, d)
      | none => searchFrom? p fuel (c :: before) rest

def search? (p : Pattern) (s : List Char) : Option (Cursor × Cursor) :=
  searchFrom? p (p.fuelFor s.length) [] s

def matchFront? (p : Pattern) (s : List Char) : Option Cursor :=
  matchAt? p (p.fuelFor s.length) ⟨[], s, []⟩

/-- Every match of the text, from the left without overlap, replaced by what `f`
    makes of it.  After an empty match one character is kept. -/
def replaceFrom (p : Pattern) (fuel : Nat) (f : Cursor → List Char) :
    Nat → List Char → List Char → List Char
  | 0, _, rest => rest
  | steps + 1, before, rest =>
      match matchAt? p fuel ⟨before, rest, []⟩, rest with
      | some d, [] => f d
      | none, [] => []
      | some d, c :: r =>
          if d.rest.length = r.length + 1 then
            f d ++ c :: replaceFrom p fuel f steps (c :: before) r
          else f d ++ replaceFrom p fuel f steps d.before d.rest
      | none, c :: r => c :: replaceFrom p fuel f steps (c :: before) r

def replaceMatches (p : Pattern) (f : Cursor → List Char) (s : List Char) : List Char :=
  replaceFrom p (p.fuelFor s.length) f (2 * s.length + 2) [] s

end Pattern

end Gleaner
