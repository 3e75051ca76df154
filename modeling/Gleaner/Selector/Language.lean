/-
  Gleaner/Selector/Language.lean
  ==============================
  **Languages.**  A range such as `de-CH` covers a language tag when its parts occur
  in the tag in order, the first at the front, with no single letter between them.
-/
import Gleaner.Text.Case
import Gleaner.Text.Split

namespace Gleaner.Selector

/-- Drop wildcards, each with the hyphen or the end after it. -/
def dropWildcards : List Char → List Char
  | '*' :: '-' :: s => dropWildcards s
  | ['*'] => []
  | s => s

/-- A range with every inner wildcard and its hyphens replaced by one hyphen; each
    step takes a character, which `fuel` counts. -/
def withoutWildcards : Nat → List Char → List Char
  | fuel + 1, '-' :: '*' :: '-' :: s => '-' :: withoutWildcards fuel (dropWildcards s)
  | _, ['-', '*'] => ['-']
  | fuel + 1, c :: s => c :: withoutWildcards fuel s
  | _, s => s

/-- The parts of a range after the first occur in the parts of a tag. -/
def coversRest : List (List Char) → List (List Char) → Bool
  | [], _ => true
  | _ :: _, [] => false
  | r :: rs, s :: ss =>
      if r.isEmpty then false
      else if s == r then coversRest rs ss
      else if s.length == 1 then false
      else coversRest (r :: rs) ss

/-- A range covers a language tag; `*` covers every tag but the empty one. -/
def covers (range tag : List Char) : Bool :=
  let plain := Text.lowerChars (withoutWildcards range.length range)
  match Text.splitChar '-' plain, Text.splitChar '-' (Text.lowerChars tag) with
  | [[]], [[]] => true
  | r :: rs, s :: ss =>
      if r == ['*'] then !(ss.isEmpty && s.isEmpty) && coversRest rs ss
      else r == s && coversRest rs ss
  | _, _ => false

end Gleaner.Selector
