/-
  Gleaner/Proofs/Rule/Segments.lean
  =================================
  **Rules by their segments.**  The segments of a rule are its parts between `@`, trimmed, without
  the blank ones (`HasSegments`).  They alone decide what the rule is compiled to, so blanks and
  spare `@` never matter, and a rule that is put together from two rules is compiled to the steps
  of both and to what the second one reads (`compile_by_segments`).
-/
import Gleaner.Proofs.Text.Trim
import Gleaner.Rule.Basic

namespace Gleaner.Rule

variable {rule a b w : String} {found parts more : List String}

/-! ### Segments -/

/-- The rule consists of parts with an `@` between each two of them; its segments are the parts
    trimmed, without the blank ones. -/
def HasSegments (rule : String) (found : List String) : Prop :=
  ∃ parts : List String, parts ≠ [] ∧ (∀ part ∈ parts, '@' ∉ part.toList)
    ∧ rule = "@".intercalate parts
    ∧ found = (parts.map Text.trim).filter (· ≠ "")

theorem hasSegments_segments (rule : String) : HasSegments rule (segments rule) :=
  Text.hasParts_iff.mpr rfl

theorem HasSegments.eq (h : HasSegments rule found) : found = segments rule :=
  Text.hasParts_iff.mp h

theorem segments_append (a b : String) : segments (a ++ "@" ++ b) = segments a ++ segments b := by
  have htext : (a ++ "@" ++ b).toList = a.toList ++ '@' :: b.toList := by simp
  unfold segments
  rw [htext, Text.splitChar_append_cons, List.map_append, List.filter_append]

theorem segments_of_notMem (h : '@' ∉ rule.toList) :
    segments rule = [Text.trim rule].filter (· ≠ "") := by
  rw [segments, Text.splitChar_of_notMem h]
  rfl

/-! ### Blanks -/

theorem notMem_of_blank (h : Text.allBlank w = true) : '@' ∉ w.toList := fun hmem =>
  absurd (List.all_eq_true.mp h '@' hmem) (by decide)

theorem segments_of_blank (h : Text.allBlank w = true) : segments w = [] := by
  rw [segments_of_notMem (notMem_of_blank h), Text.trim_eq_empty_iff.mpr h]
  rfl

/-- A rule with an `@` goes on after its first one. -/
theorem exists_first_part (h : '@' ∈ rule.toList) :
    ∃ a b, rule = a ++ "@" ++ b ∧ '@' ∉ a.toList := by
  obtain ⟨s, q, hsplit, hs⟩ := List.eq_append_cons_of_mem h
  refine ⟨String.ofList s, String.ofList q, String.toList_injective ?_, by simpa using hs⟩
  simpa using hsplit

/-- A rule with an `@` ends with what follows its last one. -/
theorem exists_last_part (h : '@' ∈ rule.toList) :
    ∃ a b, rule = a ++ "@" ++ b ∧ '@' ∉ b.toList := by
  obtain ⟨s, q, hsplit, hs⟩ := List.eq_append_cons_of_mem (List.mem_reverse.mpr h)
  refine ⟨String.ofList q.reverse, String.ofList s.reverse, String.toList_injective ?_,
    by simpa using hs⟩
  have htext := congrArg List.reverse hsplit
  simpa using htext

/-- Blanks at the front of a rule do not count. -/
theorem segments_blank_append (hw : Text.allBlank w = true) (rule : String) :
    segments (w ++ rule) = segments rule := by
  have hfirst : ∀ a : String, '@' ∉ a.toList → segments (w ++ a) = segments a := by
    intro a ha
    have hnone : '@' ∉ (w ++ a).toList := by simp [notMem_of_blank hw, ha]
    rw [segments_of_notMem hnone, segments_of_notMem ha, Text.trim_blank_append hw]
  by_cases h : '@' ∈ rule.toList
  · obtain ⟨a, b, rfl, ha⟩ := exists_first_part h
    rw [← String.append_assoc, ← String.append_assoc, segments_append, segments_append, hfirst a ha]
  · exact hfirst rule h

theorem segments_append_blank (hw : Text.allBlank w = true) (rule : String) :
    segments (rule ++ w) = segments rule := by
  have hlast : ∀ b : String, '@' ∉ b.toList → segments (b ++ w) = segments b := by
    intro b hb
    have hnone : '@' ∉ (b ++ w).toList := by simp [notMem_of_blank hw, hb]
    rw [segments_of_notMem hnone, segments_of_notMem hb, Text.trim_append_blank hw]
  by_cases h : '@' ∈ rule.toList
  · obtain ⟨a, b, rfl, hb⟩ := exists_last_part h
    rw [String.append_assoc, segments_append, segments_append, hlast b hb]
  · exact hlast rule h

/-! ### Compiling -/

theorem stepsOf_append (parts more : List String) :
    stepsOf (parts ++ more) = stepsOf parts ++ stepsOf more := by
  rw [stepsOf, List.map_append, List.filter_append, ← stepsOf, ← stepsOf]

theorem ofSegments_concat (parts : List String) (last : String) :
    ofSegments (parts ++ [last])
      = if last ∈ reserved then ⟨stepsOf parts, some last⟩
      else ⟨stepsOf (parts ++ [last]), none⟩ := by
  rw [ofSegments, List.getLast?_concat, List.dropLast_concat]

/-- What comes before some segments is steps and nothing else. -/
theorem ofSegments_append (parts : List String) (hmore : more ≠ []) :
    ofSegments (parts ++ more)
      = ⟨stepsOf parts ++ (ofSegments more).steps, (ofSegments more).reading⟩ := by
  obtain ⟨front, last, rfl⟩ := (List.eq_nil_or_concat' more).resolve_left hmore
  rw [← List.append_assoc, ofSegments_concat, ofSegments_concat]
  split
  · rw [stepsOf_append]
  · rw [List.append_assoc, stepsOf_append]

/-- A word that says what to read is a step as it stands. -/
theorem mem_stepsOf_reserved {word : String} (hword : word ∈ reserved) (h : word ∈ parts) :
    word ∈ stepsOf parts := by
  have hall : ∀ word ∈ reserved, normalizeSegment word = word ∧ word ≠ "" := by decide
  obtain ⟨hsame, hne⟩ := hall word hword
  exact List.mem_filter.mpr ⟨List.mem_map.mpr ⟨word, h, hsame⟩, by simpa using hne⟩

/-- A rule is compiled by its segments.  The last one says what to read if it is a reserved word,
    and the others are steps; blanks and spare `@` do not count; and of two rules in one the first
    gives steps only, its reserved words among them. -/
theorem compile_by_segments :
    (∀ rule, ∃! found, HasSegments rule found)
    ∧ (∀ rule : Option String, HasSegments (rule.getD "") [] → compile rule = ⟨[], none⟩)
    ∧ (∀ (rule : Option String) front last, HasSegments (rule.getD "") (front ++ [last]) →
        (last ∈ reserved → compile rule = ⟨(front.map normalizeSegment).filter (· ≠ ""), some last⟩)
        ∧ (last ∉ reserved →
          compile rule = ⟨((front ++ [last]).map normalizeSegment).filter (· ≠ ""), none⟩))
    ∧ (∀ rule other found, HasSegments rule found → HasSegments other found →
        compile (some rule) = compile (some other))
    ∧ (∀ a b w w', Text.allBlank w = true → Text.allBlank w' = true →
        compile (some (w ++ a ++ w')) = compile (some a)
        ∧ compile (some (w ++ "@" ++ a)) = compile (some a)
        ∧ compile (some (a ++ "@" ++ w)) = compile (some a)
        ∧ compile (some (a ++ "@" ++ w ++ "@" ++ b)) = compile (some (a ++ "@" ++ b))
        ∧ compile (some (a ++ w ++ "@" ++ (w' ++ b))) = compile (some (a ++ "@" ++ b)))
    ∧ ∀ a b parts more, HasSegments a parts → HasSegments b more → more ≠ [] →
        (compile (some (a ++ "@" ++ b))).reading = (compile (some b)).reading
        ∧ (compile (some (a ++ "@" ++ b))).steps
          = (parts.map normalizeSegment).filter (· ≠ "") ++ (compile (some b)).steps
        ∧ ∀ word ∈ parts, word ∈ reserved → word ∈ (compile (some (a ++ "@" ++ b))).steps := by
  have hcompile : ∀ {rule : Option String} {found}, HasSegments (rule.getD "") found →
      compile rule = ofSegments found := fun h => by rw [compile, h.eq]
  have hsame : ∀ {rule other : String}, segments rule = segments other →
      compile (some rule) = compile (some other) := fun h => congrArg ofSegments h
  refine ⟨fun rule => ⟨segments rule, hasSegments_segments rule, fun _ h => h.eq⟩,
    fun rule h => hcompile h,
    ?_, fun rule other found h h' => hsame (h.eq.symm.trans h'.eq), ?_, ?_⟩
  · intro rule front last h
    rw [hcompile h, ofSegments_concat]
    exact ⟨fun hword => if_pos hword, fun hword => if_neg hword⟩
  · intro a b w w' hw hw'
    refine ⟨hsame ?_, hsame ?_, hsame ?_, hsame ?_, hsame ?_⟩
    · rw [segments_append_blank hw', segments_blank_append hw]
    · rw [segments_append, segments_of_blank hw, List.nil_append]
    · rw [segments_append, segments_of_blank hw, List.append_nil]
    · rw [segments_append, segments_append, segments_of_blank hw, List.append_nil,
        ← segments_append]
    · rw [segments_append, segments_append_blank hw, segments_blank_append hw', ← segments_append]
  · intro a b parts more ha hb hmore
    have hright : compile (some b) = ofSegments more := hcompile hb
    have hsplit : compile (some (a ++ "@" ++ b))
        = ⟨stepsOf parts ++ (compile (some b)).steps, (compile (some b)).reading⟩ := by
      rw [compile, Option.getD_some, segments_append, ← ha.eq, ← hb.eq,
        ofSegments_append parts hmore, hright]
    rw [hsplit]
    exact ⟨rfl, rfl, fun word hmem hword =>
      List.mem_append_left _ (mem_stepsOf_reserved hword hmem)⟩

/-- A word that says what to read is a step before the end of a rule, and blanks around the last
    word do not hide it. -/
theorem inner_word_is_step :
    HasSegments " text@@class.book" ["text", "class.book"]
      ∧ HasSegments "tag.@ href " ["tag.", "href"]
      ∧ (compile (some (" text@@class.book" ++ "@" ++ "tag.@ href "))).reading = some "href"
      ∧ (compile (some (" text@@class.book" ++ "@" ++ "tag.@ href "))).steps
        = ["text", ".book"] := by
  have ha : HasSegments " text@@class.book" ["text", "class.book"] :=
    ⟨[" text", "", "class.book"], by decide, by decide, by decide, by decide⟩
  have hb : HasSegments "tag.@ href " (["tag."] ++ ["href"]) :=
    ⟨["tag.", " href "], by decide, by decide, by decide, by decide⟩
  obtain ⟨-, -, hlast, -, -, happend⟩ := compile_by_segments
  have hread := (hlast (some "tag.@ href ") ["tag."] "href" hb).1 (by decide)
  obtain ⟨hreading, hsteps, -⟩ := happend _ _ _ _ ha hb (by decide)
  rw [hread] at hreading hsteps
  exact ⟨ha, hb, hreading, hsteps.trans (by decide)⟩

end Gleaner.Rule
