/-
  Gleaner/Proofs/Page/Steps.lean
  ==============================
  **Rules of steps.**  A rule of steps, with or without a word that says what to read,
  selects in a document exactly the elements at the inner end of the chain that its steps
  ask for, in the order of the document, and reads from the first of them
  (`rule_selects_chains`).  Of a chain only the last element has to be inside the element
  in which the rule is followed.
-/
import Gleaner.Page.Basic
import Gleaner.Proofs.Markup.Order
import Gleaner.Proofs.Selector.Reading
import Gleaner.Proofs.Text.Trim

namespace Gleaner

open Markup hiding Step

/-! ### Rules as they are written -/

namespace Rule

def StepKind.short : StepKind → String
  | .className => "class."
  | .identity => "id."
  | .tag => "tag."

def Step.text (s : Step) : String := s.kind.short ++ s.name

/-- The parts of a rule: its steps, and the word that says what to read. -/
def partsOf (steps : List Step) (reading : Option String) : List String :=
  steps.map Step.text ++ reading.toList

def textOf (steps : List Step) (reading : Option String) : String :=
  "@".intercalate (partsOf steps reading)

section
variable {steps : List Step} {reading : Option String}

def isPartChar (c : Char) : Bool := isStepChar c || c == '.'

theorem isPartChar_facts {c : Char} (h : isPartChar c = true) :
    Text.isBlank c = false ∧ c ≠ '@' := by
  have hcases : isStepChar c = true ∨ c = '.' := by simpa [isPartChar] using h
  rcases hcases with hstep | rfl
  · exact ⟨isBlank_of_step hstep, ne_of_step hstep '@' (by decide)⟩
  · decide

theorem Step.text_chars (s : Step) : ∀ c ∈ s.text.toList, isPartChar c = true := by
  intro c hc
  rw [Step.text, String.toList_append] at hc
  rcases List.mem_append.mp hc with hshort | hname
  · have hall : ∀ k : StepKind, k.short.toList.all isPartChar = true := by
      intro k
      cases k <;> decide
    exact List.all_eq_true.mp (hall s.kind) c hshort
  · simp [isPartChar, s.plain.2 c hname]

theorem Step.text_ne_nil (s : Step) : s.text.toList ≠ [] := by
  obtain ⟨c, more, hname, -⟩ := s.name_eq_cons
  simp [Step.text, hname]

theorem partsOf_chars (hreading : ∀ word ∈ reading, word ∈ reserved) {part : String}
    (h : part ∈ partsOf steps reading) :
    part.toList ≠ [] ∧ ∀ c ∈ part.toList, isPartChar c = true := by
  rcases List.mem_append.mp h with hstep | hword
  · obtain ⟨s, -, rfl⟩ := List.mem_map.mp hstep
    exact ⟨s.text_ne_nil, s.text_chars⟩
  · have hall : ∀ word ∈ reserved, word.toList ≠ [] ∧ word.toList.all isPartChar = true := by decide
    obtain ⟨hne, hchars⟩ := hall part (hreading part (by simpa using hword))
    exact ⟨hne, List.all_eq_true.mp hchars⟩

/-- The segments of a rule of steps are its parts. -/
theorem segments_textOf (steps : List Step) (last : Step)
    (hreading : ∀ word ∈ reading, word ∈ reserved) :
    segments (textOf (steps ++ [last]) reading) = partsOf (steps ++ [last]) reading := by
  have hparts := fun part (h : part ∈ partsOf (steps ++ [last]) reading) => partsOf_chars hreading h
  have hsplit : Text.splitChar '@' (textOf (steps ++ [last]) reading).toList
      = (partsOf (steps ++ [last]) reading).map String.toList := by
    rw [textOf, Text.toList_intercalate '@' rfl]
    obtain ⟨p, parts, hcons⟩ : ∃ p parts, partsOf (steps ++ [last]) reading = p :: parts :=
      List.exists_cons_of_ne_nil (by simp [partsOf])
    rw [hcons] at hparts ⊢
    have hnone : ∀ q ∈ (p :: parts).map String.toList, '@' ∉ q := by
      intro q hq hmem
      obtain ⟨part, hpart, rfl⟩ := List.mem_map.mp hq
      exact (isPartChar_facts ((hparts part hpart).2 '@' hmem)).2 rfl
    exact Text.splitChar_joinChar hnone
  have hsame : ∀ part ∈ partsOf (steps ++ [last]) reading,
      ((fun p => String.ofList (Text.trimChars p)) ∘ String.toList) part = id part := by
    intro part hpart
    show String.ofList (Text.trimChars part.toList) = part
    rw [Text.trimChars, Text.trimBy_of_none fun c hc =>
      (isPartChar_facts ((hparts part hpart).2 c hc)).1, String.ofList_toList]
  rw [segments, hsplit, List.map_map, List.map_congr_left hsame, List.map_id]
  refine List.filter_eq_self.mpr fun part hpart => ?_
  have hne := (hparts part hpart).1
  simpa using hne

theorem normalizeSegment_text (s : Step) : normalizeSegment s.text = String.ofList s.css := by
  have htrim : Text.trimChars s.text.toList = s.text.toList :=
    Text.trimBy_of_none fun c hc => (isPartChar_facts (s.text_chars c hc)).1
  rw [normalizeSegment, htrim, Step.text, String.toList_append]
  cases hkind : s.kind <;>
    simp [expandFirst, shorthands, Text.dropFront?, StepKind.short, Step.css, hkind, StepKind.sign]

theorem stepsOf_text (steps : List Step) :
    stepsOf (steps.map Step.text) = steps.map fun s => String.ofList s.css := by
  have hmap : (steps.map Step.text).map normalizeSegment = steps.map fun s =>
      String.ofList s.css := by
    rw [List.map_map]
    exact List.map_congr_left fun s _ => normalizeSegment_text s
  rw [stepsOf, hmap]
  refine List.filter_eq_self.mpr fun part hpart => ?_
  obtain ⟨s, -, rfl⟩ := List.mem_map.mp hpart
  obtain ⟨c, more, hcss, -⟩ := s.css_eq_cons
  simp [hcss]

/-- A step is no word that says what to read. -/
theorem text_notReserved (s : Step) : s.text ∉ reserved := by
  have hdot : '.' ∈ s.text.toList := by
    rw [Step.text, String.toList_append]
    cases s.kind <;> simp [StepKind.short]
  have hall : ∀ word ∈ reserved, '.' ∉ word.toList := by decide
  exact fun h => hall s.text h hdot

/-- A rule of steps is compiled to the steps in a selector, with the word for what to read.
    -/
theorem compile_textOf (steps : List Step) (last : Step)
    (hreading : ∀ word ∈ reading, word ∈ reserved) :
    compile (some (textOf (steps ++ [last]) reading))
      = ⟨(steps ++ [last]).map fun s => String.ofList s.css, reading⟩ := by
  rw [compile, Option.getD_some, segments_textOf steps last hreading]
  rw [← stepsOf_text]
  cases reading with
  | none =>
    have hlast : (partsOf (steps ++ [last]) none).getLast? = some last.text := by simp [partsOf]
    rw [ofSegments, hlast]
    simp [text_notReserved, partsOf]
  | some word =>
    have hlast : (partsOf (steps ++ [last]) (some word)).getLast? = some word := by simp [partsOf]
    rw [ofSegments, hlast]
    simp [hreading word rfl, partsOf]

theorem css_compiled (steps : List Step) (reading : Option String) :
    css ⟨steps.map fun s => String.ofList s.css, reading⟩ = String.ofList (Step.cssAll steps) := by
  rw [css, ← String.toList_inj, Text.toList_intercalate ' ' rfl, String.toList_ofList, List.map_map]
  congr 1
  exact List.map_congr_left fun s _ => String.toList_ofList

end

end Rule

open Rule (Step)

/-! ### Pages -/

section
variable (steps : List Step) {reading : Option String} (last : Step)
  (hreading : ∀ word ∈ reading, word ∈ Rule.reserved)

include hreading

theorem Rule.trim_textOf :
    Text.trim (textOf (steps ++ [last]) reading) = textOf (steps ++ [last]) reading := by
  have hsolid : ∀ c ∈ (textOf (steps ++ [last]) reading).toList, Text.isBlank c = false := by
    intro c hc
    rw [textOf, Text.toList_intercalate '@' rfl] at hc
    rcases Text.mem_joinChar hc with rfl | ⟨_, hpart, hc⟩
    · decide
    · obtain ⟨part, hmem, rfl⟩ := List.mem_map.mp hpart
      exact (isPartChar_facts ((partsOf_chars hreading hmem).2 c hc)).1
  rw [Text.trim, Text.trimChars, Text.trimBy_of_none hsolid, String.ofList_toList]

theorem Rule.allBlank_textOf : Text.allBlank (textOf (steps ++ [last]) reading) = false := by
  rw [Bool.eq_false_iff, ne_eq, ← Text.trim_eq_empty_iff, trim_textOf steps last hreading]
  intro hempty
  have hsegments := segments_textOf steps last hreading
  rw [hempty] at hsegments
  have hnone : segments "" = [] := by decide
  rw [hnone] at hsegments
  simp [partsOf] at hsegments

theorem selectElements_textOf (scope : Place) :
    selectElements scope (Rule.compile (some (Rule.textOf (steps ++ [last]) reading)))
      = .ok (Selector.select (.any [Selector.compound last steps.reverse]) scope) := by
  have hsome : ((steps ++ [last]).map fun s => String.ofList s.css).isEmpty = false := by simp
  rw [Rule.compile_textOf steps last hreading, selectElements, hsome, selectorOf?,
    Rule.css_compiled, Selector.parse_steps]
  rfl

/-- A rule of steps reads from the first element in the chain of its steps. -/
theorem selectText_textOf (scope : Place) :
    selectText scope (Rule.compile (some (Rule.textOf (steps ++ [last]) reading)))
      = .ok (((Selector.select (.any [Selector.compound last steps.reverse]) scope).head?.map
          fun q => readNode reading q.node).getD "") := by
  have helements := selectElements_textOf steps last hreading scope
  have hcompiled := Rule.compile_textOf steps last hreading
  have hsome : (Rule.compile (some (Rule.textOf (steps ++ [last]) reading))).steps.isEmpty
      = false := by
    simp [hcompiled]
  have hreads : (Rule.compile (some (Rule.textOf (steps ++ [last]) reading))).reading
      = reading := by
    rw [hcompiled]
  rw [selectText, firstNode?, hsome, helements, hreads]
  simp only [Bool.false_eq_true, if_false, Except.map]
  cases (Selector.select (.any [Selector.compound last steps.reverse]) scope).head? <;> rfl

end

/-- A rule of steps, followed in a whole document or in one of its elements, selects the
    elements inside it that satisfy the last step and have around them, from the inside
    out and anywhere in the document, elements that satisfy the steps before it; each of
    them once, in the order of the document.  What it reads, it reads from the first. -/
theorem rule_selects_chains (root : Place) (context : Option Place) (steps : List Step)
    (last : Step) (reading : Option String) (hreading : ∀ word ∈ reading, word ∈ Rule.reserved) :
    ∃ places : List Place,
      (Page.document root).items (some (Rule.textOf (steps ++ [last]) reading))
        (context.map .element) = .ok (places.map .element)
      ∧ (∀ q, q ∈ places ↔
          q.IsInside (context.getD root) ∧ last.Holds q.node ∧ q.EndsChain steps.reverse)
      ∧ places.Pairwise Place.Before
      ∧ (Page.document root).text (some (Rule.textOf (steps ++ [last]) reading))
        (context.map .element)
          = .ok ((places.head?.map fun q => readNode reading q.node).getD "") := by
  have htrim := Rule.trim_textOf steps last hreading
  have hsome := Rule.allBlank_textOf steps last hreading
  have hscope : Page.scopeIn root (context.map .element) = .ok (context.getD root) := by
    cases context <;> rfl
  have helements := selectElements_textOf steps last hreading (context.getD root)
  have htext := selectText_textOf steps last hreading (context.getD root)
  refine ⟨Selector.select (.any [Selector.compound last steps.reverse]) (context.getD root),
    ?_, ?_, ?_, ?_⟩
  · simp [Page.items, Page.trimmed, Page.select, htrim, hsome, hscope, helements, Except.map]
  · intro q
    rw [Selector.select, List.mem_filter, Place.mem_descendants]
    simp [Selector.holds, Selector.anyHolds, Selector.holds_compound]
  · exact (Place.descendants_inOrder _).filter _
  · simp [Page.text, Page.trimmed, Page.read?, htrim, hsome, hscope, htext]

def shelf : Place :=
  .ofDocument (.element documentName []
    [.element "div" [("class", "new book")]
      [.element "p" [] [.element "A" [] [.text .plain "One"]]],
     .element "a" [] [.text .plain "Two"]])

/-- The links in a book, and the text of the first of them. -/
theorem links_in_books_selected :
    ∃ places : List Place,
      (Page.document shelf).items (some "class.book@tag.a@text") none = .ok (places.map .element)
      ∧ (∀ q, q ∈ places ↔ q.IsInside shelf
          ∧ Step.Holds ⟨.tag, "a", by decide⟩ q.node
          ∧ q.EndsChain [⟨.className, "book", by decide⟩])
      ∧ places.Pairwise Place.Before
      ∧ (Page.document shelf).text (some "class.book@tag.a@text") none
          = .ok ((places.head?.map fun q => readNode (some "text") q.node).getD "") :=
  rule_selects_chains shelf none [⟨.className, "book", by decide⟩] ⟨.tag, "a", by decide⟩
    (some "text") (by decide)

end Gleaner
