/-
  Gleaner/Proofs/Page/Fault.lean
  ==============================
  **Faults of pages and rules.**  A body that is no page is a fault that a stage accounts
  for, unless it is data with a number of too many digits (`read_fault`).  A rule that
  fails on a page is a bad value or asks for a part of an element, and no stage accounts
  for either (`items_fault`, `fieldText_fault`).
-/
import Gleaner.Book.Extract
import Gleaner.Proofs.Fault

namespace Gleaner

variable {α β : Type}

/-! ### Documents -/

namespace Markup

def IsRejection (e : Fault) : Prop :=
  ∃ reason, e = .unreadable ("HTML parser rejected the response: " ++ reason) none

/-- A bad value, for which the document is rejected, or a rejection. -/
def IsRefusal (e : Fault) : Prop := e.IsBadValue ∨ IsRejection e

theorem refusal_badValue (m : String) : IsRefusal (.badValue m) := .inl ⟨m, rfl⟩

theorem decimalNumber_fault (digits : List Char) : FailsBy IsRefusal (decimalNumber digits) := by
  unfold decimalNumber
  by_cases h : Text.maxDigits < digits.length
  · rw [if_pos h]
    exact .error (refusal_badValue _)
  · rw [if_neg h]
    exact .ok _

theorem valueReference_fault (s : List Char) : FailsBy IsRefusal (valueReference s) := by
  unfold valueReference
  split
  · dsimp only
    split
    · exact (decimalNumber_fault _).map
    · split <;> exact .ok _
  · dsimp only
    split <;> exact .ok _

theorem resolveValue_fault (s : List Char) : FailsBy IsRefusal (resolveValue s) := by
  fun_induction resolveValue s with
  | case1 => exact .ok _
  | case2 s e he => exact .error (valueReference_fault s e he)
  | case3 s out rest hok ih => exact ih.map
  | case4 c s hc ih => exact ih.map

theorem resolveAttributes_fault (raw : List (List Char × List Char)) :
    FailsBy IsRefusal (resolveAttributes raw) := by
  induction raw with
  | nil => exact .ok _
  | cons pair more ih =>
    obtain ⟨name, value⟩ := pair
    unfold resolveAttributes
    cases h : resolveValue value with
    | error e => exact .error (resolveValue_fault value e h)
    | ok v => exact ih.map

theorem startTag_fault (s : List Char) : FailsBy IsRefusal (startTag s) := by
  unfold startTag
  dsimp only
  split
  · exact .ok _
  · exact (resolveAttributes_fault _).map
  · exact (resolveAttributes_fault _).map
  · split
    · exact .ok _
    · exact (resolveAttributes_fault _).map

theorem rejection_refusal (reason : String) : IsRefusal (rejection reason) := by
  have hfront : "HTML parser rejected the response: The markup you provided was rejected by the "
      = "HTML parser rejected the response: " ++ "The markup you provided was rejected by the " :=
        rfl
  simp only [rejection, hfront, String.append_assoc]
  exact .inr ⟨_, rfl⟩

theorem markedSection_fault (s : List Char) : FailsBy IsRefusal (markedSection s) := by
  unfold markedSection
  cases s with
  | nil => exact .ok _
  | cons c r =>
    dsimp only
    split
    · exact .error (rejection_refusal _)
    · split
      · exact .ok _
      · split
        · split <;> exact .ok _
        · split
          · split <;> exact .ok _
          · exact .error (rejection_refusal _)

/-- No construct is refused but by a rejection or a bad value. -/
theorem construct?_fault (s : List Char) : FailsBy IsRefusal (construct? s) := by
  unfold construct?
  split
  · exact .ok _
  · exact .ok _
  · exact .ok _
  · exact (markedSection_fault _).map
  · split <;> exact .ok _
  · split
    · exact (startTag_fault _).map
    · exact .ok _
  · exact .ok _

theorem numberReference_fault (s : List Char) : FailsBy IsRefusal (numberReference s) := by
  unfold numberReference
  dsimp only
  split
  · split
    · exact (decimalNumber_fault _).map
    · exact .ok _
  · split <;> exact .ok _

theorem stepMarkup_fault (final : Bool) (s : List Char) :
    FailsBy IsRefusal (stepMarkup final s) := by
  unfold stepMarkup
  split
  · next e he => exact .error (construct?_fault s e he)
  · exact .ok _
  · exact .ok _
  · split <;> exact .ok _

theorem stepReference_fault (single : Nat → Option Char) (final : Bool) (s : List Char) :
    FailsBy IsRefusal (stepReference single final s) := by
  unfold stepReference
  split
  · exact .ok _
  · next r =>
    split
    · next e he => exact .error (numberReference_fault r e he)
    · exact .ok _
    · exact .ok _
  · split
    · exact .ok _
    · split <;> exact .ok _

/-- A pass over a document is refused like its constructs, by induction on the fuel. -/
theorem pass_fault (single : Nat → Option Char) (final : Bool) (fuel : Nat) (raw : Option String)
    (s : List Char) : FailsBy IsRefusal (pass single final fuel raw s) := by
  induction fuel generalizing raw s with
  | zero => exact .ok _
  | succ fuel ih =>
    cases s with
    | nil => cases raw <;> exact .ok _
    | cons c s =>
      cases raw with
      | some name =>
        unfold pass
        split
        · exact .ok _
        · exact (ih none _).map
      | none =>
        unfold pass
        dsimp only
        split
        · next e he =>
          apply FailsBy.error
          split at he
          · exact stepMarkup_fault final s e he
          · split at he
            · exact stepReference_fault single final s e he
            · cases he
        · exact .ok _
        · exact (ih _ _).map

theorem tokens_fault (single : Nat → Option Char) (s : List Char) :
    FailsBy IsRefusal (tokens single s) := by
  unfold tokens
  split
  · next e he => exact .error (pass_fault _ _ _ _ _ e he)
  · split
    · next e he => exact .error (pass_fault _ _ _ _ _ e he)
    · exact .ok _
    · exact .ok _

end Markup

/-! ### Bodies -/

namespace Page

def IsLongNumber (e : Fault) : Prop := ∃ digits, e = .badValue (Text.digitLimitText digits)

theorem readJson_fault (s : List Char) :
    FailsBy (fun e => IsLongNumber e ∨ e.endsStage = true) (readJson s) := by
  unfold readJson
  split
  · exact .ok _
  · split
    · next digits _ => exact .error (.inl ⟨digits, rfl⟩)
    · exact .error (.inr rfl)

theorem readMarkup_fault (single : Nat → Option Char) (s : List Char) :
    FailsBy Markup.IsRejection (readMarkup single s) := by
  unfold readMarkup
  split
  · exact .ok _
  · next reason _ => exact .error ⟨reason, rfl⟩
  · next e hother he =>
    rcases Markup.tokens_fault single s e he with ⟨m, rfl⟩ | hrejected
    · exact absurd rfl (hother m)
    · exact .error hrejected

/-- A body that is no page ends a stage, unless it looks like data and has a number with
    too many digits. -/
theorem read_fault (body : Body) :
    FailsBy (fun e => (IsLongNumber e ∧ body.looksLikeJson = true) ∨ e.endsStage = true)
      (read body) := by
  have hdata : ∀ s, body.looksLikeJson = true →
      FailsBy (fun e => (IsLongNumber e ∧ body.looksLikeJson = true) ∨ e.endsStage = true)
        (readJson s) := by
    intro s hjson
    exact (readJson_fault s).mono fun e he => he.imp_left fun hlong => ⟨hlong, hjson⟩
  unfold read
  split
  · next hjson => exact hdata _ hjson
  · next hjson =>
    split
    · exact hdata _ hjson
    · exact .error (.inr rfl)
  · exact (readMarkup_fault _ _).mono fun e ⟨_, he⟩ => .inr (he ▸ rfl)
  · exact (readMarkup_fault _ _).mono fun e ⟨_, he⟩ => .inr (he ▸ rfl)

end Page

/-! ### Rules in data -/

namespace Json

theorem position?_fault (size : Nat) (key : List Char) :
    FailsBy Fault.IsBadValue (position? size key) := by
  unfold position?
  split
  · exact .ok _
  · split
    · exact .error ⟨_, rfl⟩
    · exact .ok _

theorem step_fault (v : Json) (part : List Char) : FailsBy Fault.IsBadValue (step v part) := by
  unfold step
  split
  · exact .ok _
  · split
    · next e he => exact .error (position?_fault _ _ e he)
    · exact .ok _
    · exact .ok _
  · exact .ok _

theorem walk_fault (v : Json) (parts : List (List Char)) :
    FailsBy Fault.IsBadValue (walk v parts) := by
  induction parts generalizing v with
  | nil => exact .ok _
  | cons part parts ih =>
    unfold walk
    split
    · next e he => exact .error (step_fault v part e he)
    · exact .ok _
    · exact ih _

/-- A key fails by a bad value alone. -/
theorem query_fault (root : Json) (key : String) : FailsBy Fault.IsBadValue (query root key) := by
  unfold query
  split
  · exact .ok _
  · split
    · exact .ok _
    · exact .ok _
    · exact (walk_fault _ _).map

theorem selectValue_fault (root : Json) (rule : String) :
    FailsBy Fault.IsBadValue (selectValue root rule) := by
  unfold selectValue direct?
  dsimp only
  split
  · next e he => exact .error (step_fault _ _ e he)
  · exact .ok _
  · exact (query_fault _ _).map

theorem asText_fault (v : Json) : FailsBy Fault.IsBadValue v.asText := by
  unfold asText
  split
  · exact .ok _
  · exact .error ⟨_, rfl⟩

theorem selectList_fault (root : Json) (rule : String) :
    FailsBy Fault.IsBadValue (selectList root rule) := by
  unfold selectList direct?
  dsimp only
  split
  · next e he => exact .error (step_fault _ _ e he)
  · exact .ok _
  · exact (query_fault _ _).map

end Json

/-! ### Rules in documents -/

/-- A fault of a rule: a bad value, or a selector that asks for a part of an element. -/
def Fault.IsRuleFault (e : Fault) : Prop := e.IsBadValue ∨ ∃ index, e = .pseudoElement index

theorem Fault.IsRuleFault.endsStage {e : Fault} (h : e.IsRuleFault) : e.endsStage = false := by
  rcases h with ⟨m, rfl⟩ | ⟨index, rfl⟩ <;> rfl

namespace Markup

theorem selectorOf?_fault (css : String) : FailsBy Fault.IsRuleFault (selectorOf? css) := by
  unfold selectorOf?
  split
  · exact .ok _
  · exact .ok _
  · exact .error (.inr ⟨_, rfl⟩)
  · exact .error (.inl ⟨_, rfl⟩)
  · exact .error (.inl ⟨_, rfl⟩)

theorem selectElements_fault (scope : Place) (rule : Rule) :
    FailsBy Fault.IsRuleFault (selectElements scope rule) := by
  unfold selectElements
  split
  · exact .ok _
  · exact (selectorOf?_fault _).map

theorem selectText_fault (scope : Place) (rule : Rule) :
    FailsBy Fault.IsRuleFault (selectText scope rule) := by
  unfold selectText firstNode?
  split
  · exact (FailsBy.ok _).map
  · exact (selectElements_fault scope rule).map.map

end Markup

/-! ### Rules of a stage -/

namespace Page

/-- Selecting fails by a fault of the rule alone. -/
theorem items_fault (page : Page) (rule : Option String) :
    FailsBy Fault.IsRuleFault (page.items rule none) := by
  unfold items select
  split
  · dsimp only
    split
    · split <;> exact .ok _
    · exact (Json.selectList_fault _ _).map.mono fun e he => .inl he
  · split
    · exact .ok _
    · exact (Markup.selectElements_fault _ _).map

theorem fieldText_fault (page : Page) (rule : Option String) :
    FailsBy Fault.IsRuleFault (page.fieldText none rule) := by
  unfold fieldText text read?
  apply FailsBy.map
  split
  · split
    · exact .ok _
    · exact ((Json.selectValue_fault _ _).bind fun v => Json.asText_fault _).mono fun e he =>
        .inl he
  · split
    · exact .ok _
    · exact Markup.selectText_fault _ _

/-- A pass over a list fails only by the rule for the list: an item that fails is counted. -/
theorem harvest_fault (page : Page) (rule : Option String) (build : Item → Except Fault α)
    (isEmpty : α → Bool) : FailsBy Fault.IsRuleFault (page.harvest rule build isEmpty) :=
  (items_fault page rule).map

theorem detail_fault (page : Page) (rules : DetailRules) :
    FailsBy Fault.IsRuleFault (page.detail rules) := by
  have hfield := fieldText_fault page
  refine (hfield _).bind fun name => (hfield _).bind fun author => (hfield _).bind fun intro => ?_
  refine (hfield _).bind fun kind => (hfield _).bind fun toc => (hfield _).bind fun cover => ?_
  exact (hfield _).bind fun last => (hfield _).bind fun count => .ok _

theorem chapterText_fault (page : Page) (rules : ContentRules) :
    FailsBy Fault.IsRuleFault (page.chapterText rules) := by
  have hfield := fieldText_fault page
  exact (hfield _).bind fun title => (hfield _).bind fun content => .ok _

end Page

end Gleaner
