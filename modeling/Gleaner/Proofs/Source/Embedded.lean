/-
  Gleaner/Proofs/Source/Embedded.lean
  ===================================
  **Json inside a source.**  The header text and the explore text of a source may be Json,
  and need not be.  What they hold if they are not of the form that is looked for is given
  up without a fault, the header text for no headers at all and the explore text for its
  lines; the one fault is a long number, and it comes exactly if such a number is met in
  the text (`embedded_outcome`).
-/
import Gleaner.Proofs.Json.LongNumber
import Gleaner.Proofs.Source.Usable

namespace Gleaner.Source

theorem parseJson_long {text : String} {n : Nat} (h : Json.Meets n .value text.toList) :
    parseJson text = .error (.badValue (Text.digitLimitText n)) := by
  obtain ⟨r, hread⟩ := Json.parse_tooManyDigits.mpr h
  rw [parseJson, hread]

/-- Without a long number in it a text is Json or it is not. -/
theorem parseJson_outcome {text : String} (hlong : ∀ n, ¬ Json.Meets n .value text.toList) :
    (∃ v, parseJson text = .ok v) ∨ ∃ m, parseJson text = .error (.notJson m) := by
  unfold parseJson
  split
  · next v _ => exact .inl ⟨v, rfl⟩
  · next f hread =>
    obtain ⟨problem, rest⟩ := f
    split
    · next n hproblem =>
      cases hproblem
      exact absurd (Json.parse_tooManyDigits.mp ⟨rest, hread⟩) (hlong n)
    · exact .inr ⟨_, rfl⟩

/-! ### Headers -/

/-- The headers that the members of an object stand for: those that are not null, as they are
    shown. -/
def headersOf (ms : Json.Members) : List (String × String) :=
  (ms.filter fun (_, v) => !v.isNull).map fun (k, v) => (k, v.shown)

section
variable {s : Source} {text : String}

/-- An empty header text is no Json either. -/
theorem requestHeaders_text (hs : s.header = some text) : s.requestHeaders =
    match parseJson text with
    | .ok (.obj ms) => .ok (headersOf ms)
    | .ok _ => .ok []
    | .error (.notJson _) => .ok []
    | .error f => .error f := by
  rw [requestHeaders, hs]
  dsimp only
  split
  · next hempty =>
    have hread : parseJson "" = .error (.notJson "Expecting value: line 1 column 1 (char 0)") := by
      cbv
    rw [hempty, hread]
  · rfl

theorem requestHeaders_object {ms : Json.Members} (hs : s.header = some text)
    (h : parseJson text = .ok (.obj ms)) :
    s.requestHeaders = .ok (headersOf ms) := by
  rw [requestHeaders_text hs, h]

/-- Without a long number in its text a source has headers, and none if the text is no object. -/
theorem requestHeaders_returns (hs : s.header = some text)
    (hlong : ∀ n, ¬ Json.Meets n .value text.toList) :
    ∃ hs, s.requestHeaders = .ok hs
      ∧ ((∃ ms, parseJson text = .ok (.obj ms) ∧ hs = headersOf ms)
        ∨ (∀ ms, parseJson text ≠ .ok (.obj ms)) ∧ hs = []) := by
  rw [requestHeaders_text hs]
  rcases parseJson_outcome hlong with ⟨v, hv⟩ | ⟨m, hm⟩
  · rw [hv]
    cases v with
    | obj ms => exact ⟨_, rfl, .inl ⟨ms, rfl, rfl⟩⟩
    | null | bool | int | real | str | arr => exact ⟨_, rfl, .inr ⟨fun _ h => (by cases h), rfl⟩⟩
  · rw [hm]
    exact ⟨_, rfl, .inr ⟨fun _ h => (by cases h), rfl⟩⟩

theorem requestHeaders_long {n : Nat} (hs : s.header = some text)
    (hlong : Json.Meets n .value text.toList) :
    s.requestHeaders = .error (.badValue (Text.digitLimitText n)) := by
  rw [requestHeaders_text hs, parseJson_long hlong]

end

/-! ### Entries -/

section
variable {text : String}

/-- The text is read as Json, for its bracket, and a long number is met in it. -/
def ListMeets (text : String) (n : Nat) : Prop :=
  (Text.trim text).toList.head? = some '[' ∧ Json.Meets n .value (Text.trim text).toList

theorem ne_empty_of_bracket (h : text.toList.head? = some '[') : text ≠ "" := by
  rintro rfl
  cases h

theorem parseExplore_long {n : Nat} (h : ListMeets text n) :
    parseExplore (some text) = .error (.badValue (Text.digitLimitText n)) := by
  rw [parseExplore, Option.getD_some, if_neg (ne_empty_of_bracket h.1), if_pos h.1,
    parseJson_long h.2]

/-- Without a long number in the text there are entries: those of the array, or of the lines. -/
theorem parseExplore_returns (hlong : ∀ n, ¬ ListMeets text n) :
    ∃ entries, parseExplore (some text) = .ok entries := by
  by_cases hfront : (Text.trim text).toList.head? = some '['
  · rw [parseExplore, Option.getD_some, if_neg (ne_empty_of_bracket hfront), if_pos hfront]
    rcases parseJson_outcome fun n hn => hlong n ⟨hfront, hn⟩ with ⟨v, hv⟩ | ⟨m, hm⟩
    · rw [hv]
      cases v <;> exact ⟨_, rfl⟩
    · rw [hm]
      exact ⟨_, rfl⟩
  · rw [parseExplore, Option.getD_some, if_neg hfront]
    split <;> exact ⟨_, rfl⟩

end

/-- In a text for headers or entries a long number is met, which is the fault, or else the text
    is read: as the object or array that it is, and otherwise as no headers and as lines. -/
theorem embedded_outcome (s : Source) (text : String) :
    ((∃ n, Json.Meets n .value text.toList
        ∧ requestHeaders { s with header := some text }
          = .error (.badValue (Text.digitLimitText n)))
      ∨ (∀ n, ¬ Json.Meets n .value text.toList)
      ∧ ∃ hs, requestHeaders { s with header := some text } = .ok hs
        ∧ ((∃ ms, parseJson text = .ok (.obj ms) ∧ hs = headersOf ms)
          ∨ (∀ ms, parseJson text ≠ .ok (.obj ms)) ∧ hs = []))
    ∧ ((∃ n, ListMeets text n ∧ parseExplore (some text)
      = .error (.badValue (Text.digitLimitText n)))
      ∨ (∀ n, ¬ ListMeets text n) ∧ ∃ entries, parseExplore (some text) = .ok entries
        ∧ ((∃ items, parseJson (Text.trim text) = .ok (.arr items)
          ∧ entries = items.filterMap entryOfItem?)
          ∨ (∀ items, parseJson (Text.trim text) ≠ .ok (.arr items))
            ∧ entries = entriesOfLines (Text.trim text).toList)) := by
  constructor
  · by_cases hlong : ∃ n, Json.Meets n .value text.toList
    · obtain ⟨n, hn⟩ := hlong
      exact .inl ⟨n, hn, requestHeaders_long rfl hn⟩
    · have hnone : ∀ n, ¬ Json.Meets n .value text.toList := fun n hn => hlong ⟨n, hn⟩
      exact .inr ⟨hnone, requestHeaders_returns rfl hnone⟩
  · by_cases hlong : ∃ n, ListMeets text n
    · obtain ⟨n, hn⟩ := hlong
      exact .inl ⟨n, hn, parseExplore_long hn⟩
    · have hnone : ∀ n, ¬ ListMeets text n := fun n hn => hlong ⟨n, hn⟩
      obtain ⟨entries, hentries⟩ := parseExplore_returns hnone
      have hcases := parseExplore_lines hentries
      rw [Option.getD_some] at hcases
      exact .inr ⟨hnone, entries, hentries, hcases⟩

/-- A list of one long number, as text. -/
theorem meets_list_text {n : Nat} (hn : Text.maxDigits < n) :
    Json.Meets n .value (String.ofList ('[' :: (List.replicate n '1' ++ [']']))).toList
      ∧ ListMeets (String.ofList ('[' :: (List.replicate n '1' ++ [']']))) n := by
  have hmeets := Json.meets_list hn
  rw [ListMeets, trim_brackets, String.toList_ofList]
  exact ⟨hmeets, rfl, hmeets⟩

/-- A list of one number with 4301 digits is given up neither as headers nor as entries. -/
theorem long_number_not_given_up :
    (¬ ∀ (s : Source) (text : String), ∃ hs, requestHeaders { s with header := some text } = .ok hs)
      ∧ ¬ ∀ text : String, ∃ entries, parseExplore (some text) = .ok entries := by
  obtain ⟨hmeets, hlist⟩ := meets_list_text (n := 4301) (by decide)
  constructor
  · intro h
    obtain ⟨hs, hok⟩ := h (ofMembers []) _
    rw [requestHeaders_long rfl hmeets] at hok
    cases hok
  · intro h
    obtain ⟨entries, hok⟩ := h _
    rw [parseExplore_long hlist] at hok
    cases hok

end Gleaner.Source
