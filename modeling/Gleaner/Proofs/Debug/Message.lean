/-
  Gleaner/Proofs/Debug/Message.lean
  =================================
  **The messages of a run.**  A stage introduces itself by its title, and before a fetch its
  address is announced.  The other messages of a run, blank ones apart, do not start like
  either, whatever stands on the pages and in the source (`StartsPlain`).
-/
import Gleaner.Debug.Run

namespace Gleaner

variable {α : Type}

/-! ### Titles and announcements -/

/-- The line with which a stage introduces itself, after a blank one. -/
def Stage.title : Stage → String
  | .search => "📋 Stage 1: search"
  | .detail => "📋 Stage 2: detail"
  | .toc => "📋 Stage 3: table of contents"
  | .content => "📋 Stage 4: content"

def IsUntitled (message : String) : Prop := ∀ stage : Stage, message ≠ stage.title

/-- Two texts differ at a place that both have. -/
def differ : List Char → List Char → Bool
  | c :: s, d :: t => c != d || differ s t
  | _, _ => false

/-- Texts that differ still differ with more behind them. -/
theorem differ_append {s t : List Char} (h : differ s t = true) (u : List Char) :
    differ s (t ++ u) = true := by
  induction s generalizing t with
  | nil => cases h
  | cons c s ih =>
    cases t with
    | nil => cases h
    | cons d t =>
      rw [differ, Bool.or_eq_true] at h
      rw [List.cons_append, differ, Bool.or_eq_true]
      exact h.imp_right ih

theorem dropFront?_of_differ {s t : List Char} (h : differ s t = true) :
    Text.dropFront? s t = none := by
  induction s generalizing t with
  | nil => cases h
  | cons c s ih =>
    cases t with
    | nil => cases h
    | cons d t =>
      rw [differ, Bool.or_eq_true, bne_iff_ne] at h
      rw [Text.dropFront?]
      by_cases hcd : c = d
      · rw [if_pos hcd]
        exact ih (h.resolve_left fun hne => hne hcd)
      · rw [if_neg hcd]

/-- How the title of a stage starts, and the message that an address is asked for. -/
def titleOpening : String := "📋 Stage "

def announcement : String := "  → GET "

/-- Whatever follows, the message is neither a title nor an announcement. -/
def StartsPlain (message : String) : Prop :=
  differ titleOpening.toList message.toList = true
    ∧ differ announcement.toList message.toList = true

instance (message : String) : Decidable (StartsPlain message) := inferInstanceAs (Decidable (_ ∧ _))

theorem StartsPlain.append {a : String} (h : StartsPlain a) (b : String) :
    StartsPlain (a ++ b) := by
  unfold StartsPlain
  rw [String.toList_append]
  exact ⟨differ_append h.1 _, differ_append h.2 _⟩

theorem StartsPlain.isUntitled {message : String} (h : StartsPlain message) :
    IsUntitled message := by
  rintro stage rfl
  revert h
  cases stage <;> decide

theorem isUntitled_empty : IsUntitled "" := by
  intro stage
  cases stage <;> decide

def Stage.failure (stage : Stage) (e : Fault) : String :=
  "✗ " ++ stage.name ++ " stage failed: " ++ e.text

def Ending.closing : Ending → String
  | .completed => "✓ Debug run complete"
  | .stopped => "⏹ Stop requested; ending run"
  | .aborted _ => "✗ Run aborted"
  | .refused => Debugger.busyMessage

theorem startsPlain_failure (stage : Stage) (e : Fault) : StartsPlain (stage.failure e) :=
  ((StartsPlain.append (by decide) _).append _).append _

theorem startsPlain_unusable (stage : Stage) :
    StartsPlain ("✗ " ++ stage.name ++ ": no usable input for next stage") :=
  (StartsPlain.append (by decide) _).append _

theorem startsPlain_closing (ending : Ending) : StartsPlain ending.closing := by
  cases ending with
  | aborted stage => exact (by decide : StartsPlain "✗ Run aborted")
  | _ => decide

theorem isUntitled_announcement (url : String) : IsUntitled (announcement ++ url) := by
  intro stage h
  have hchars := congrArg String.toList h
  rw [String.toList_append] at hchars
  cases stage <;> cases hchars

namespace Debug

theorem startsPlain_countLine {what : String} (hwhat : StartsPlain ("  " ++ what)) (h : Harvest α) :
    StartsPlain (countLine what h) := by
  unfold countLine
  iterate 9 apply StartsPlain.append
  exact hwhat

theorem startsPlain_skippedLine (failure : Nat × Fault) : StartsPlain (skippedLine failure) := by
  unfold skippedLine
  repeat apply StartsPlain.append
  decide

theorem startsPlain_previewLines (title url : α → String) (limit : Int) (items : List α) :
    ∀ line ∈ previewLines title url limit items, StartsPlain line := by
  intro line hline
  obtain ⟨⟨item, place⟩, -, hitem⟩ := List.mem_flatMap.mp hline
  simp only [itemLines, List.mem_cons, List.not_mem_nil, or_false] at hitem
  rcases hitem with rfl | rfl
  · repeat apply StartsPlain.append
    decide
  · apply StartsPlain.append
    decide

theorem startsPlain_harvest {what : String} (hwhat : StartsPlain ("  " ++ what))
    (title url : α → String) (limit : Int) (h : Harvest α) :
    ∀ line ∈ h.failures.map skippedLine ++ [countLine what h]
        ++ previewLines title url limit h.kept,
      StartsPlain line := by
  intro line hline
  simp only [List.mem_append, List.mem_map, List.mem_singleton] at hline
  rcases hline with (⟨failure, -, rfl⟩ | rfl) | hline
  · exact startsPlain_skippedLine failure
  · exact startsPlain_countLine hwhat h
  · exact startsPlain_previewLines title url limit h.kept line hline

theorem startsPlain_detailLines (d : BookDetail) : ∀ line ∈ detailLines d, StartsPlain line := by
  intro line hline
  simp only [detailLines, List.mem_cons, List.not_mem_nil, or_false] at hline
  rcases hline with rfl | rfl | rfl | rfl | rfl | rfl <;> exact StartsPlain.append (by decide) _

theorem startsPlain_contentLines (limit : Int) (t : ChapterText) :
    ∀ line ∈ contentLines limit t, StartsPlain line := by
  intro line hline
  unfold contentLines at hline
  rcases List.mem_cons.mp hline with rfl | hline
  · exact StartsPlain.append (by decide) _
  · split at hline
    · rw [List.mem_singleton.mp hline]
      decide
    · simp only [List.mem_cons, List.not_mem_nil, or_false] at hline
      rcases hline with rfl | rfl
      · exact StartsPlain.append (by decide) _
      · exact (StartsPlain.append (by decide) _).append _

theorem startsPlain_statusLine (reply : Reply) : StartsPlain (statusLine reply) :=
  (((StartsPlain.append (by decide) _).append _).append _).append _

theorem startsPlain_searchRulesLine (rules : ListRules) : StartsPlain (searchRulesLine rules) := by
  unfold searchRulesLine
  repeat apply StartsPlain.append
  decide

end Debug

end Gleaner
