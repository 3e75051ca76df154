/-
  Gleaner/Proofs/Source/Labels.lean
  =================================
  **Labels as an ordered set.**  The group text of a source is one text, and its labels are
  its trimmed parts between commas.  Labels joined by commas are cut into the same labels
  again (`labelsOf_join`), so adding and removing labels in the text is adding them to a list
  without repeats and taking them from it (`labels_are_ordered_set`).
-/
import Gleaner.Proofs.Text.Trim
import Gleaner.Source.Labels

namespace Gleaner

variable {text g : String} {found gs : List String}

/-! ### Labels of a text -/

theorem hasParts_comma_iff (group : Option String) :
    Text.HasParts ',' (group.getD "") found ↔ found = labelsOf group := Text.hasParts_iff

structure IsLabel (g : String) : Prop where
  nonempty : g ≠ ""
  trimmed : Text.trim g = g
  noComma : ',' ∉ g.toList

theorem isLabel_of_mem {group : Option String} (h : g ∈ labelsOf group) : IsLabel g := by
  obtain ⟨hpart, hne⟩ := List.mem_filter.mp h
  obtain ⟨p, hp, rfl⟩ := List.mem_map.mp hpart
  refine ⟨by simpa using hne, ?_, fun hcomma => ?_⟩
  · rw [← Text.trim_ofList, Text.trim_trim]
  · rw [String.toList_ofList] at hcomma
    exact Text.notMem_splitChar hp ((Text.trimBy_sublist _ p).mem hcomma)

/-- Labels that are joined are cut where they were joined. -/
theorem labelsOf_join (h : ∀ g ∈ gs, IsLabel g) : labelsOf (some (",".intercalate gs)) = gs := by
  rcases gs.eq_nil_or_concat' with rfl | ⟨front, last, hgs⟩
  · rfl
  · have htrim : gs.map Text.trim = gs :=
      (List.map_congr_left fun g hg => (h g hg).trimmed).trans (List.map_id' gs)
    have hparts : Text.HasParts ',' (",".intercalate gs) gs := by
      refine ⟨gs, by simp [hgs], fun g hg => (h g hg).noComma, rfl, ?_⟩
      rw [htrim, List.filter_eq_self.mpr fun g hg => by simpa using (h g hg).nonempty]
    exact ((hasParts_comma_iff (some _)).mp hparts).symm

/-! ### First occurrences -/

/-- Leaving out what was seen before is leaving out what repeats. -/
theorem firstOccurrences_eq_eraseDups (seen xs : List String) :
    firstOccurrences seen xs = (xs.filter (· ∉ seen)).eraseDups := by
  induction xs generalizing seen with
  | nil => rfl
  | cons x xs ih =>
    rw [firstOccurrences]
    split
    · next hseen => rw [ih, List.filter_cons_of_neg (by simpa using hseen)]
    · next hnew =>
      have hmore :
          xs.filter (· ∉ x :: seen) = (xs.filter (· ∉ seen)).filter (fun y => !y == x) := by
        rw [List.filter_filter]
        refine List.filter_congr fun y _ => ?_
        by_cases hy : y = x <;> simp [hy]
      rw [ih, List.filter_cons_of_pos (by simpa using hnew), List.eraseDups_cons, hmore]

theorem eraseDups_eraseDups : ∀ xs : List String, xs.eraseDups.eraseDups = xs.eraseDups
  | [] => rfl
  | x :: xs => by
    have hkept : (xs.filter (fun y => !y == x)).eraseDups.filter (fun y => !y == x)
        = (xs.filter (fun y => !y == x)).eraseDups :=
      List.filter_eq_self.mpr fun y hy => (List.mem_filter.mp (List.mem_eraseDups.mp hy)).2
    rw [List.eraseDups_cons, List.eraseDups_cons, hkept,
      eraseDups_eraseDups (xs.filter fun y => !y == x)]
termination_by xs => xs.length
decreasing_by exact Nat.lt_succ_of_le (List.length_filter_le _ _)

/-- Appending what is there already adds nothing. -/
theorem eraseDups_append_again (xs ys : List String) :
    ((xs ++ ys).eraseDups ++ ys).eraseDups = (xs ++ ys).eraseDups := by
  have hthere : ys.removeAll (xs ++ ys).eraseDups = [] := by
    rw [List.removeAll, List.filter_eq_nil_iff]
    intro y hy
    simp [List.mem_eraseDups, hy]
  rw [List.eraseDups_append, eraseDups_eraseDups, hthere, List.eraseDups_nil, List.append_nil]

/-! ### Labels of a source -/

namespace Source

variable {s : Source}

theorem labels_of_empty (h : s.group.getD "" = "") : s.labels = [] := by
  rw [labels, labelsOf, h]
  rfl

theorem hasLabel_iff : s.hasLabel g = true ↔ g ∈ s.labels := List.contains_iff_mem

/-- Adding labels puts those of both texts, each where it comes first, in place of the group
    text. -/
theorem addLabels_eq (s : Source) (text : String) :
    s.addLabels text = { s with
      group := some (",".intercalate (s.labels ++ labelsOf (some text)).eraseDups) } := by
  have hall : (s.labels ++ labelsOf (some text)).filter (· ∉ ([] : List String))
      = s.labels ++ labelsOf (some text) :=
    List.filter_eq_self.mpr (by simp)
  rw [addLabels, firstOccurrences_eq_eraseDups, hall]

/-- Labels that are added come after those that are there, without repeats. -/
theorem labels_addLabels (s : Source) (text : String) :
    (s.addLabels text).labels = (s.labels ++ labelsOf (some text)).eraseDups := by
  rw [addLabels_eq]
  refine labelsOf_join fun g hg => ?_
  rcases List.mem_append.mp (List.mem_eraseDups.mp hg) with hg | hg
  · exact isLabel_of_mem hg
  · exact isLabel_of_mem hg

theorem addLabels_addLabels (s : Source) (text : String) :
    (s.addLabels text).addLabels text = s.addLabels text := by
  rw [addLabels_eq (s.addLabels text), labels_addLabels, eraseDups_append_again, addLabels_eq]

/-- Taking labels away leaves a source without a group text alone, and puts the labels that
    stay in place of another one. -/
theorem removeLabels_cases (s : Source) (text : String) :
    (s.labels = [] ∧ s.removeLabels text = s)
    ∨ s.removeLabels text = { s with
        group := some (",".intercalate (s.labels.filter (· ∉ labelsOf (some text)))) } := by
  have hkept : (s.labels.filter fun g => !(labelsOf (some text)).contains g)
      = s.labels.filter (· ∉ labelsOf (some text)) := List.filter_congr fun g _ => by simp
  unfold removeLabels removeLabels?
  split
  · next hempty => exact .inl ⟨labels_of_empty hempty, rfl⟩
  · exact .inr (by rw [← hkept]; rfl)

/-- Labels that are removed are gone, and the others stay in their order. -/
theorem labels_removeLabels (s : Source) (text : String) :
    (s.removeLabels text).labels = s.labels.filter (· ∉ labelsOf (some text)) := by
  rcases removeLabels_cases s text with ⟨hnone, hsame⟩ | hnew
  · rw [hsame, hnone]
    rfl
  · rw [hnew]
    exact labelsOf_join fun g hg => isLabel_of_mem (List.mem_filter.mp hg).1

theorem removeLabels_removeLabels (s : Source) (text : String) :
    (s.removeLabels text).removeLabels text = s.removeLabels text := by
  rcases removeLabels_cases s text with ⟨-, hsame⟩ | hnew
  · rw [hsame, hsame]
  · rcases removeLabels_cases (s.removeLabels text) text with ⟨-, hsame⟩ | hagain
    · exact hsame
    · rw [hagain, labels_removeLabels, List.filter_filter, hnew]
      simp only [Bool.and_self]

/-- The labels of a source are the trimmed parts of its group text, and of none if it has no
    group text.  Adding the labels of a text appends those that are new, once each; taking
    them away leaves the others in their order.  Doing either again changes nothing, and
    nothing but the group text changes. -/
theorem labels_are_ordered_set (s : Source) (text : String) :
    (∀ found, Text.HasParts ',' (s.group.getD "") found ↔ found = s.labels)
    ∧ (∀ found, Text.HasParts ',' text found ↔ found = labelsOf (some text))
    ∧ (s.addLabels text).labels = (s.labels ++ labelsOf (some text)).eraseDups
    ∧ (s.removeLabels text).labels = s.labels.filter (· ∉ labelsOf (some text))
    ∧ (∀ g, (s.addLabels text).hasLabel g = true ↔ s.hasLabel g = true ∨ g ∈ labelsOf (some text))
    ∧ (∀ g, (s.removeLabels text).hasLabel g = true ↔ s.hasLabel g = true
      ∧ g ∉ labelsOf (some text))
    ∧ (s.addLabels text).addLabels text = s.addLabels text
    ∧ (s.removeLabels text).removeLabels text = s.removeLabels text
    ∧ (∃ group, s.addLabels text = { s with group := group })
    ∧ ∃ group, s.removeLabels text = { s with group := group } := by
  refine ⟨fun _ => hasParts_comma_iff s.group, fun _ => hasParts_comma_iff (some text),
    labels_addLabels s text,
    labels_removeLabels s text, fun g => ?_, fun g => ?_, addLabels_addLabels s text,
    removeLabels_removeLabels s text, ⟨_, rfl⟩, ?_⟩
  · rw [hasLabel_iff, hasLabel_iff, labels_addLabels, List.mem_eraseDups, List.mem_append]
  · rw [hasLabel_iff, hasLabel_iff, labels_removeLabels, List.mem_filter, decide_eq_true_eq]
  · rcases removeLabels_cases s text with ⟨-, hsame⟩ | hnew
    · exact ⟨s.group, hsame⟩
    · exact ⟨_, hnew⟩

end Source

end Gleaner
