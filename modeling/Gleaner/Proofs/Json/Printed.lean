/-
  Gleaner/Proofs/Json/Printed.lean
  ================================
  **Printed values.**  A plain value has no whole numbers of too many digits and no name
  twice in an object.  However it is printed, it is read again as the same value, with its
  members in the same order (`parse_indented`, `parse_compact`, `parse_spaced`); a number
  with a point is read as the number that its text stands for (`reread`).
-/
import Gleaner.Json.Printer
import Gleaner.Proofs.Json.Written

namespace Gleaner.Json

open Text (ShortInt)

/-! ### Plain values -/

mutual
/-- Whether a value is plain, and without numbers with a point unless `points`. -/
def isPlain (points : Bool) : Json → Bool
  | .null => true
  | .bool _ => true
  | .int n => decide (ShortInt n)
  | .real _ => points
  | .str _ => true
  | .arr items => arePlain points items
  | .obj members => decide (members.map (·.1)).Nodup && arePlainMembers points members
def arePlain (points : Bool) : List Json → Bool
  | [] => true
  | v :: vs => isPlain points v && arePlain points vs
def arePlainMembers (points : Bool) : List (String × Json) → Bool
  | [] => true
  | (_, v) :: ms => isPlain points v && arePlainMembers points ms
end

theorem arePlain_iff {points : Bool} {vs : List Json} :
    arePlain points vs = true ↔ ∀ v ∈ vs, v.isPlain points = true := by
  induction vs with
  | nil => simp [arePlain]
  | cons v vs ih => rw [arePlain, Bool.and_eq_true, ih, List.forall_mem_cons]

/-! ### Numbers with a point -/

def readAgain (x : Binary64) : Binary64 :=
  match readAtom (atom (.real x)) with
  | .ok (.real y, _) => y
  | _ => x

/-- Every number with a point is written by one of the texts for such numbers. -/
theorem text_pointed (x : Binary64) : ∃ y, Pointed y (atom (.real x)) := by
  cases x with
  | nan => exact ⟨.nan, .word (w := "NaN") (by simp [literals])⟩
  | infinite negative =>
    cases negative
    · exact ⟨.infinite false, .word (w := "Infinity") (by simp [literals])⟩
    · exact ⟨.infinite true, .word (w := "-Infinity") (by simp [literals])⟩
  | finite negative m e =>
    obtain ⟨w, t, fraction, low, exponent, htext, hw, ht⟩ := Binary64.magnitudeText_parts m e
    refine ⟨Binary64.ofParts negative w fraction low exponent, ?_⟩
    rw [atom, Binary64.text, String.toList_ofList, htext]
    exact .number negative hw ht

theorem simple_real (x : Binary64) : Simple (.real (readAgain x)) (atom (.real x)) := by
  obtain ⟨y, hy⟩ := text_pointed x
  have hread : readAtom (atom (.real x) ++ []) = .ok (.real y, []) :=
    readAtom_pointed hy (by simp [Stops])
  rw [List.append_nil] at hread
  have hagain : readAgain x = y := by rw [readAgain, hread]
  exact .real (hagain ▸ hy)

mutual
/-- The value with each number with a point as it is read again. -/
def reread : Json → Json
  | .real x => .real (readAgain x)
  | .arr items => .arr (rereadItems items)
  | .obj members => .obj (rereadMembers members)
  | v => v
def rereadItems : List Json → List Json
  | [] => []
  | v :: vs => reread v :: rereadItems vs
def rereadMembers : List (String × Json) → List (String × Json)
  | [] => []
  | (k, v) :: ms => (k, reread v) :: rereadMembers ms
end

theorem rereadItems_eq_map (vs : List Json) : rereadItems vs = vs.map reread := by
  induction vs with
  | nil => rfl
  | cons v vs ih => rw [rereadItems, ih, List.map_cons]

theorem rereadMembers_names (ms : Members) : (rereadMembers ms).map (·.1) = ms.map (·.1) := by
  induction ms with
  | nil => rfl
  | cons m ms ih => rw [rereadMembers, List.map_cons, ih, List.map_cons]

mutual
/-- A value without numbers with a point is not changed. -/
theorem reread_plain : ∀ v : Json, v.isPlain false = true → v.reread = v
  | .null, _ => rfl
  | .bool _, _ => rfl
  | .int _, _ => rfl
  | .real _, h => by simp [isPlain] at h
  | .str _, _ => rfl
  | .arr vs, h => by
    rw [isPlain] at h
    rw [reread, rereadItems_plain vs h]
  | .obj ms, h => by
    rw [isPlain, Bool.and_eq_true] at h
    rw [reread, rereadMembers_plain ms h.2]
theorem rereadItems_plain : ∀ vs : List Json, arePlain false vs = true → rereadItems vs = vs
  | [], _ => rfl
  | v :: vs, h => by
    rw [arePlain, Bool.and_eq_true] at h
    rw [rereadItems, reread_plain v h.1, rereadItems_plain vs h.2]
theorem rereadMembers_plain :
    ∀ ms : Members, arePlainMembers false ms = true → rereadMembers ms = ms
  | [], _ => rfl
  | (k, v) :: ms, h => by
    rw [arePlainMembers, Bool.and_eq_true] at h
    rw [rereadMembers, reread_plain v h.1, rereadMembers_plain ms h.2]
end

/-! ### Over several lines -/

section
variable {points : Bool}

theorem blank_newLine (level : Nat) : Blank (newLine level) := by
  intro c hc
  rcases List.mem_cons.mp hc with rfl | hc
  · rfl
  · obtain ⟨-, rfl⟩ := List.mem_replicate.mp hc
    rfl

theorem blank_space : Blank [' '] := by simp [Blank, isSpace]

mutual
/-- A plain value is written by its indented text, for any level; by induction on the value.
    -/
theorem writes_indented (level : Nat) :
    ∀ v : Json, v.isPlain points = true → Writes (.value v.reread) (indentedChars level v)
  | .null, _ => .simple .null
  | .bool b, _ => .simple (.bool b)
  | .int _, h => .simple (.int (by simpa [isPlain] using h))
  | .real x, _ => .simple (simple_real x)
  | .str s, _ => .simple (.str s)
  | .arr [], _ => .emptyArr blank_nil
  | .arr (v :: vs), h => by
    -- the items start on a line of their own, whose blanks are those after the bracket
    obtain ⟨cs, htext, hitems⟩ :=
      writes_indentedItems (level + 1) (v :: vs) (List.cons_ne_nil _ _) (by simpa [isPlain] using h)
    rw [indentedChars, htext]
    exact .arr (blank_newLine _) hitems
  | .obj [], _ => .emptyObj blank_nil
  | .obj (m :: ms), h => by
    rw [isPlain, Bool.and_eq_true, decide_eq_true_eq] at h
    obtain ⟨cs, htext, hmembers⟩ :=
      writes_indentedMembers (level + 1) (m :: ms) (List.cons_ne_nil _ _) h.2
    rw [indentedChars, htext]
    exact .obj (blank_newLine _) (by rw [rereadMembers_names]; exact h.1) hmembers
theorem writes_indentedItems (level : Nat) : ∀ vs : List Json, vs ≠ [] → arePlain points vs = true →
    ∃ cs, indentedItems level vs = newLine level ++ cs ∧ Writes (.items (rereadItems vs)) cs
  | [], hne, _ => absurd rfl hne
  | [v], _, h => by
    rw [arePlain, Bool.and_eq_true] at h
    exact ⟨_, by simp [indentedItems],
      .lastItem (writes_indented level v h.1) (blank_newLine (level - 1))⟩
  | v :: w :: vs, _, h => by
    rw [arePlain, Bool.and_eq_true] at h
    obtain ⟨cs, htext, hmore⟩ := writes_indentedItems level (w :: vs) (List.cons_ne_nil _ _) h.2
    refine ⟨_, ?_, .item (writes_indented level v h.1) blank_nil (blank_newLine level) hmore⟩
    rw [indentedItems, htext]
    simp
theorem writes_indentedMembers (level : Nat) :
    ∀ ms : Members, ms ≠ [] → arePlainMembers points ms = true →
    ∃ cs, indentedMembers level ms = newLine level ++ cs ∧ Writes (.members (rereadMembers ms)) cs
  | [], hne, _ => absurd rfl hne
  | [(k, v)], _, h => by
    rw [arePlainMembers, Bool.and_eq_true] at h
    exact ⟨_, by simp [indentedMembers],
      .lastMember blank_nil blank_space (writes_indented level v h.1) (blank_newLine (level - 1))⟩
  | (k, v) :: m :: ms, _, h => by
    rw [arePlainMembers, Bool.and_eq_true] at h
    obtain ⟨cs, htext, hmore⟩ := writes_indentedMembers level (m :: ms) (List.cons_ne_nil _ _) h.2
    refine ⟨_, ?_, .member blank_nil blank_space (writes_indented level v h.1) blank_nil
      (blank_newLine level) hmore⟩
    rw [indentedMembers, htext]
    simp
end

/-- A value printed over several lines is read again. -/
theorem parse_indented {v : Json} (h : v.isPlain points = true) :
    parse v.indented.toList = .ok v.reread := by
  rw [indented, String.toList_ofList]
  exact (writes_indented 0 v h).parse

/-! ### On one line -/

structure Separators.Blanks (sep : Separators) : Prop where
  comma : ∃ b, Blank b ∧ sep.comma = ',' :: b
  colon : ∃ b, Blank b ∧ sep.colon = ':' :: b

theorem blanks_dense : Separators.dense.Blanks :=
  ⟨⟨[], blank_nil, rfl⟩, ⟨[], blank_nil, rfl⟩⟩

theorem blanks_loose : Separators.loose.Blanks :=
  ⟨⟨[' '], blank_space, rfl⟩, ⟨[' '], blank_space, rfl⟩⟩

mutual
theorem writes_line {sep : Separators} (hsep : sep.Blanks) :
    ∀ v : Json, v.isPlain points = true → Writes (.value v.reread) (lineChars sep v)
  | .null, _ => .simple .null
  | .bool b, _ => .simple (.bool b)
  | .int _, h => .simple (.int (by simpa [isPlain] using h))
  | .real x, _ => .simple (simple_real x)
  | .str s, _ => .simple (.str s)
  | .arr [], _ => .emptyArr blank_nil
  | .arr (v :: vs), h => by
    rw [isPlain] at h
    exact .arr blank_nil (writes_lineItems hsep (v :: vs) (List.cons_ne_nil _ _) h)
  | .obj [], _ => .emptyObj blank_nil
  | .obj (m :: ms), h => by
    rw [isPlain, Bool.and_eq_true, decide_eq_true_eq] at h
    have hmembers := writes_lineMembers hsep (m :: ms) (List.cons_ne_nil _ _) h.2
    exact .obj blank_nil (by rw [rereadMembers_names]; exact h.1) hmembers
theorem writes_lineItems {sep : Separators} (hsep : sep.Blanks) : ∀ vs : List Json, vs ≠ [] →
    arePlain points vs = true → Writes (.items (rereadItems vs)) (lineItems sep vs)
  | [], hne, _ => absurd rfl hne
  | [v], _, h => by
    rw [arePlain, Bool.and_eq_true] at h
    exact .lastItem (writes_line hsep v h.1) blank_nil
  | v :: w :: vs, _, h => by
    rw [arePlain, Bool.and_eq_true] at h
    obtain ⟨b, hb, hcomma⟩ := hsep.comma
    have hmore := writes_lineItems hsep (w :: vs) (List.cons_ne_nil _ _) h.2
    have hitem := Writes.item (writes_line hsep v h.1) blank_nil hb hmore
    rwa [lineItems, hcomma, List.append_assoc, List.cons_append]
/-- The members of an object on one line are written by their text, whatever blanks the
    separators have. -/
theorem writes_lineMembers {sep : Separators} (hsep : sep.Blanks) : ∀ ms : Members, ms ≠ [] →
    arePlainMembers points ms = true → Writes (.members (rereadMembers ms)) (lineMembers sep ms)
  | [], hne, _ => absurd rfl hne
  | [(k, v)], _, h => by
    rw [arePlainMembers, Bool.and_eq_true] at h
    obtain ⟨b, hb, hcolon⟩ := hsep.colon
    have hmember := Writes.lastMember (k := k) blank_nil hb (writes_line hsep v h.1) blank_nil
    simpa [lineMembers, rereadMembers, hcolon] using hmember
  | (k, v) :: m :: ms, _, h => by
    rw [arePlainMembers, Bool.and_eq_true] at h
    obtain ⟨b, hb, hcomma⟩ := hsep.comma
    obtain ⟨b', hb', hcolon⟩ := hsep.colon
    have hmore := writes_lineMembers hsep (m :: ms) (List.cons_ne_nil _ _) h.2
    have hmember := Writes.member (k := k) blank_nil hb' (writes_line hsep v h.1) blank_nil hb hmore
    simpa only [lineMembers, rereadMembers, hcomma, hcolon, List.append_assoc, List.cons_append,
      List.nil_append] using hmember
end

/-- The shortest text of a value is read again. -/
theorem parse_compact {v : Json} (h : v.isPlain points = true) :
    parse v.compact.toList = .ok v.reread := by
  rw [compact, String.toList_ofList]
  exact (writes_line blanks_dense v h).parse

theorem parse_spaced {v : Json} (h : v.isPlain points = true) :
    parse v.spaced.toList = .ok v.reread := by
  rw [spaced, String.toList_ofList]
  exact (writes_line blanks_loose v h).parse

end

end Gleaner.Json
