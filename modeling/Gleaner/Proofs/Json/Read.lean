/-
  Gleaner/Proofs/Json/Read.lean
  =============================
  **What the reader takes.**  A whole number has been taken only if it has few enough
  digits, so every whole number among the members of an object that was read can be
  written and read again (`parse_members_short`).  A text that is read as an array starts
  with a bracket (`parse_arr_front`).
-/
import Gleaner.Proofs.Text.Decimal
import Gleaner.Json.Reader

namespace Gleaner.Json

open Text (ShortInt asciiDigit)

/-! ### Short numbers -/

/-- The whole numbers among the members can be written and read again. -/
def ShortMembers (ms : Members) : Prop := ∀ name n, find? name ms = some (.int n) → ShortInt n

theorem ShortMembers.put {ms : Members} (h : ShortMembers ms) {v : Json}
    (hv : ∀ n, v = .int n → ShortInt n) (name : String) : ShortMembers (put name v ms) := by
  intro other n hfound
  rw [find?_put] at hfound
  split at hfound
  · exact hv n (Option.some.inj hfound)
  · exact h other n hfound

/-- What a value is if the whole numbers directly in it are short. -/
def Taken : Json → Prop
  | .int n => ShortInt n
  | .obj ms => ShortMembers ms
  | _ => True

theorem Taken.short {v : Json} (h : Taken v) : ∀ n, v = .int n → ShortInt n := by
  rintro n rfl
  exact h

/-! ### Words and numbers -/

theorem wholeDigits?_digits {s whole rest : List Char} (h : wholeDigits? s = some (whole, rest)) :
    ∀ c ∈ whole, asciiDigit c = true := by
  unfold wholeDigits? at h
  split at h
  · obtain ⟨rfl, rfl⟩ : ['0'] = whole ∧ _ := by simpa using h
    simp [asciiDigit]
  · split at h
    · next c r _ hc =>
      obtain ⟨rfl, rfl⟩ : c :: r.takeWhile asciiDigit = whole ∧ _ := by simpa using h
      intro d hd
      rcases List.mem_cons.mp hd with rfl | hd
      · exact hc
      · exact List.all_eq_true.mp List.all_takeWhile d hd
    · cases h
  · cases h

/-- A number that is read can be written again: if it is whole it has no more digits than
    are taken. -/
theorem readMagnitude_taken {negative : Bool} {start s rest : List Char} {v : Json}
    (h : readMagnitude negative start s = .ok (v, rest)) : Taken v := by
  unfold readMagnitude at h
  split at h
  · cases h
  · next whole afterWhole hwhole =>
    simp only at h
    split at h
    · obtain ⟨rfl, -⟩ : Json.real _ = v ∧ _ := by simpa using h
      trivial
    · split at h
      · split at h
        · cases h
        · next hfew =>
          obtain ⟨rfl, -⟩ :
              Json.int (Binary64.signed negative (Text.decimalValue whole)) = v ∧ _ := by
            simpa using h
          have hbound := Text.decimalValue_lt_pow (wholeDigits?_digits hwhole)
          have hshort := Text.shortInt_of_lt_pow hbound (Nat.le_of_not_lt hfew)
          cases negative
          · exact hshort
          · exact Text.shortInt_neg hshort
      · obtain ⟨rfl, -⟩ : Json.real _ = v ∧ _ := by simpa using h
        trivial

theorem readLiteral?_mem {s : List Char} {words : List (String × Json)} {v : Json}
    {rest : List Char} (h : readLiteral? s words = some (v, rest)) : v ∈ words.map (·.2) := by
  induction words with
  | nil => cases h
  | cons w words ih =>
    rw [readLiteral?] at h
    split at h
    · obtain ⟨rfl, rfl⟩ : w.2 = v ∧ _ := by simpa using h
      exact List.mem_cons_self
    · exact List.mem_cons_of_mem _ (ih h)

theorem readAtom_taken {s rest : List Char} {v : Json} (h : readAtom s = .ok (v, rest)) :
    Taken v := by
  unfold readAtom at h
  split at h
  · next r hword =>
    obtain rfl := Except.ok.inj h
    have hall : ∀ v ∈ literals.map (·.2), Taken v := by simp [literals, Taken]
    exact hall v (readLiteral?_mem hword)
  · split at h
    · exact readMagnitude_taken h
    · exact readMagnitude_taken h

/-! ### Values -/

theorem readItems_taken (fuel : Nat) (acc : List Json) (s : List Char) {v : Json} {rest : List Char}
    (h : readItems fuel acc s = .ok (v, rest)) : Taken v := by
  induction fuel generalizing acc s with
  | zero => cases h
  | succ fuel ih =>
    rw [readItems] at h
    split at h
    · cases h
    · split at h
      · obtain ⟨rfl, -⟩ : Json.arr _ = v ∧ _ := by simpa using h
        trivial
      · exact ih _ _ h
      · cases h

/-- By induction on the fuel: a member is taken with less fuel than its object. -/
theorem read_taken (fuel : Nat) : (∀ s v rest, readValue fuel s = .ok (v, rest) → Taken v) ∧
    (∀ acc s v rest, ShortMembers acc → readMembers fuel acc s = .ok (v, rest) → Taken v) := by
  induction fuel with
  | zero => exact ⟨fun _ _ _ h => (by cases h), fun _ _ _ _ _ h => (by cases h)⟩
  | succ fuel ih =>
    obtain ⟨ihvalue, ihmembers⟩ := ih
    have hnone : ShortMembers [] := by simp [ShortMembers, find?]
    constructor
    · intro s v rest h
      rw [readValue.eq_def] at h
      simp only at h
      split at h
      · next r =>
        cases htext : readText ('\x22' :: r) [] r with
        | error => simp [htext, Except.map] at h
        | ok t =>
          obtain ⟨rfl, -⟩ : Json.str t.1 = v ∧ _ := by simpa [htext, Except.map] using h
          trivial
      · split at h
        · obtain ⟨rfl, -⟩ : Json.arr [] = v ∧ _ := by simpa using h
          trivial
        · exact readItems_taken fuel [] _ h
      · split at h
        · obtain ⟨rfl, -⟩ : Json.obj [] = v ∧ _ := by simpa using h
          exact hnone
        · exact ihmembers [] _ v rest hnone h
      · exact readAtom_taken h
    · intro acc s v rest hacc h
      rw [readMembers.eq_def] at h
      simp only at h
      split at h
      · split at h
        · cases h
        · next name r _ =>
          split at h
          · split at h
            · cases h
            · next w r' hvalue =>
              have hput := hacc.put (ihvalue _ w r' hvalue).short name
              split at h
              · obtain ⟨rfl, -⟩ : Json.obj _ = v ∧ _ := by simpa using h
                exact hput
              · exact ihmembers _ _ v rest hput h
              · cases h
          · cases h
      · cases h

/-- The members of an object that was read hold short numbers only. -/
theorem parse_members_short {s : List Char} {ms : Members} (h : parse s = .ok (.obj ms)) :
    ShortMembers ms := by
  unfold parse at h
  split at h
  · cases h
  · unfold readDocument at h
    split at h
    · cases h
    · next v r hread =>
      split at h
      · obtain rfl := Except.ok.inj h
        exact (read_taken _).1 _ _ _ hread
      · cases h

/-! ### Openings -/

/-- The sign with which the text of a value opens, if it has one of its own. -/
def opening? : Json → Option Char
  | .str _ => some '\x22'
  | .arr _ => some '['
  | .obj _ => some '{'
  | _ => none

section
variable {s rest : List Char} {v : Json}

theorem readMagnitude_opening {negative : Bool} {start : List Char}
    (h : readMagnitude negative start s = .ok (v, rest)) : opening? v = none := by
  unfold readMagnitude at h
  split at h
  · cases h
  · simp only at h
    split at h
    · cases h
      rfl
    · split at h
      · split at h
        · cases h
        · cases h
          rfl
      · cases h
        rfl

theorem readAtom_opening (h : readAtom s = .ok (v, rest)) : opening? v = none := by
  unfold readAtom at h
  split at h
  · next r hword =>
    obtain rfl := Except.ok.inj h
    have hall : ∀ v ∈ literals.map (·.2), opening? v = none := by simp [literals, opening?]
    exact hall v (readLiteral?_mem hword)
  · split at h
    · exact readMagnitude_opening h
    · exact readMagnitude_opening h

theorem readItems_opening (fuel : Nat) (acc : List Json) (s : List Char)
    (h : readItems fuel acc s = .ok (v, rest)) :
    opening? v = some '[' := by
  induction fuel generalizing acc s with
  | zero => cases h
  | succ fuel ih =>
    rw [readItems] at h
    split at h
    · cases h
    · split at h
      · cases h
        rfl
      · exact ih _ _ h
      · cases h

theorem readMembers_opening (fuel : Nat) (acc : Members) (s : List Char)
    (h : readMembers fuel acc s = .ok (v, rest)) : opening? v = some '{' := by
  induction fuel generalizing acc s with
  | zero => cases h
  | succ fuel ih =>
    rw [readMembers.eq_def] at h
    simp only at h
    split at h
    · split at h
      · cases h
      · split at h
        · split at h
          · cases h
          · split at h
            · cases h
              rfl
            · exact ih _ _ h
            · cases h
        · cases h
    · cases h

/-- A value with a sign of its own is read only from a text that opens with it. -/
theorem readValue_opening {fuel : Nat} {c : Char} (h : readValue fuel s = .ok (v, rest))
    (hv : opening? v = some c) :
    s.head? = some c := by
  cases fuel with
  | zero => cases h
  | succ fuel =>
    rw [readValue.eq_def] at h
    simp only at h
    split at h
    · next r =>
      cases htext : readText ('\x22' :: r) [] r with
      | error => simp [htext, Except.map] at h
      | ok t =>
        obtain ⟨rfl, -⟩ : Json.str t.1 = v ∧ _ := by simpa [htext, Except.map] using h
        exact hv
    · split at h
      · cases h
        exact hv
      · exact (readItems_opening fuel [] _ h).symm.trans hv
    · split at h
      · cases h
        exact hv
      · exact (readMembers_opening fuel [] _ h).symm.trans hv
    · cases (readAtom_opening h).symm.trans hv

/-- Only a text that starts with a bracket is read as an array. -/
theorem parse_arr_front {items : List Json} (h : parse s = .ok (.arr items)) :
    (skipSpace s).head? = some '[' := by
  unfold parse at h
  split at h
  · cases h
  · unfold readDocument at h
    split at h
    · cases h
    · next v r hread =>
      split at h
      · obtain rfl := Except.ok.inj h
        exact readValue_opening hread rfl
      · cases h

end

end Gleaner.Json
