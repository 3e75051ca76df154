/-
  Gleaner/Text/Split.lean
  =======================
  **Cutting text at separators and joining it again.**  A text with `n`
  separators has `n + 1` parts, some of which may be empty; joining the parts
  with the separator gives the text back (`joinChar_splitChar`).
-/

namespace Gleaner.Text

def splitChar (sep : Char) : List Char → List (List Char)
  | [] => [[]]
  | c :: s =>
      if c = sep then [] :: splitChar sep s
      else match splitChar sep s with
        | [] => [[c]]
        | p :: ps => (c :: p) :: ps

def joinChar (sep : Char) : List (List Char) → List Char
  | [] => []
  | [p] => p
  | p :: q :: ps => p ++ sep :: joinChar sep (q :: ps)

theorem splitChar_ne_nil (sep : Char) (s : List Char) : splitChar sep s ≠ [] := by
  induction s with
  | nil => simp [splitChar]
  | cons c s ih =>
    unfold splitChar
    split
    · simp
    · split <;> simp

/-- The parts with the sign between them are the text again. -/
theorem joinChar_splitChar (sep : Char) (s : List Char) :
    joinChar sep (splitChar sep s) = s := by
  induction s with
  | nil => simp [splitChar, joinChar]
  | cons c s ih =>
    unfold splitChar
    split
    · next h =>
      subst h
      rcases hs : splitChar c s with _ | ⟨p, ps⟩
      · exact absurd hs (splitChar_ne_nil c s)
      · rw [hs] at ih; simp [joinChar, ih]
    · rcases hs : splitChar sep s with _ | ⟨p, ps⟩
      · exact absurd hs (splitChar_ne_nil sep s)
      · rw [hs] at ih
        rcases ps with _ | ⟨q, ps⟩
        · simp only [joinChar] at ih ⊢; rw [ih]
        · simp only [joinChar] at ih ⊢; rw [List.cons_append, ih]

theorem splitChar_of_notMem {sep : Char} {s : List Char} (h : sep ∉ s) : splitChar sep s = [s] := by
  induction s with
  | nil => rfl
  | cons c s ih =>
    have hc : c ≠ sep := fun e => h (e ▸ List.mem_cons_self)
    rw [splitChar, if_neg hc, ih (fun hmem => h (List.mem_cons_of_mem c hmem))]

/-- A part ends at the first separator after it. -/
theorem splitChar_append {sep : Char} {p : List Char} (h : sep ∉ p) (s : List Char) :
    splitChar sep (p ++ sep :: s) = p :: splitChar sep s := by
  induction p with
  | nil =>
    rw [List.nil_append, splitChar, if_pos rfl]
  | cons c p ih =>
    have hc : c ≠ sep := fun e => h (e ▸ List.mem_cons_self)
    rw [List.cons_append, splitChar, if_neg hc, ih (fun hmem => h (List.mem_cons_of_mem c hmem))]

/-- Drop `p` from the front of `s`, if it is there. -/
def dropFront? : List Char → List Char → Option (List Char)
  | [], s => some s
  | _ :: _, [] => none
  | c :: p, d :: s => if c = d then dropFront? p s else none

def startsWith (p s : List Char) : Bool := (dropFront? p s).isSome

/-- Cut at the first occurrence of `sep`: what stands before it and after it. -/
def cutAt? (sep : List Char) : List Char → Option (List Char × List Char)
  | [] => if sep.isEmpty then some ([], []) else none
  | c :: s =>
      match dropFront? sep (c :: s) with
      | some rest => some ([], rest)
      | none => (cutAt? sep s).map fun (before, rest) => (c :: before, rest)

/-- Every occurrence of `old`, read from the left without overlap, becomes
    `new`.  `skip` characters still belong to the occurrence last seen. -/
def replaceFrom (old new : List Char) : Nat → List Char → List Char
  | _, [] => []
  | skip + 1, _ :: s => replaceFrom old new skip s
  | 0, c :: s =>
      if startsWith old (c :: s) then new ++ replaceFrom old new (old.length - 1) s
      else c :: replaceFrom old new 0 s

def replaceAll (old new s : List Char) : List Char := replaceFrom old new 0 s

/-- The parts of a text between occurrences of a non-empty separator, at most
    `limit` cuts when a limit is given. -/
def splitText (sep : List Char) (limit : Option Nat) :
    Nat → List Char → List Char → List (List Char)
  | _, [], part => [part.reverse]
  | skip + 1, _ :: s, part => splitText sep limit skip s part
  | 0, c :: s, part =>
      if limit ≠ some 0 ∧ startsWith sep (c :: s) then
        part.reverse :: splitText sep (limit.map (· - 1)) (sep.length - 1) s []
      else splitText sep limit 0 s (c :: part)

end Gleaner.Text
