/-
  Gleaner/Proofs/Selector/Reading.lean
  ====================================
  **Steps as a selector.**  Written one after another, a space apart, the steps of a rule
  are read as the condition of the chain that they ask for (`parse_steps`).  A name ends
  at the space after it, and the space joins what comes before to what follows as
  something around it.
-/
import Gleaner.Proofs.Selector.Chain
import Gleaner.Selector.Parser

namespace Gleaner

/-! ### Characters of steps -/

namespace Rule

section
variable {c : Char}

theorem isNameChar_of_step (h : isStepChar c = true) : Selector.isNameChar c = true :=
  forall_step (p := fun c => Selector.isNameChar c = true) (by decide) h

theorem isBlank_of_step (h : isStepChar c = true) : Text.isBlank c = false :=
  forall_step (p := fun c => Text.isBlank c = false) (by decide) h

theorem isMarkupBlank_of_step (h : isStepChar c = true) : Text.isMarkupBlank c = false :=
  forall_step (p := fun c => Text.isMarkupBlank c = false) (by decide) h

theorem ne_of_step (h : isStepChar c = true) (d : Char) (hd : isStepChar d = false) : c ≠ d := by
  rintro rfl
  rw [hd] at h
  cases h

end

def StepKind.sign : StepKind → List Char
  | .className => ['.']
  | .identity => ['#']
  | .tag => []

namespace Step

theorem name_append_ne (s : Step) {d : Char} (hd : Text.asciiLetter d = false)
    (rest r : List Char) :
    s.name.toList ++ rest = d :: r → False := by
  obtain ⟨c, more, hname, hletter⟩ := s.name_eq_cons
  rw [hname, List.cons_append]
  intro h
  rw [(List.cons.inj h).1, hd] at hletter
  cases hletter

def css (s : Step) : List Char := s.kind.sign ++ s.name.toList

def cssAll (steps : List Step) : List Char := Text.joinChar ' ' (steps.map css)

theorem cssAll_cons (s t : Step) (steps : List Step) :
    cssAll (s :: t :: steps) = s.css ++ ' ' :: cssAll (t :: steps) := rfl

theorem css_eq_cons (s : Step) :
    ∃ c more, s.css = c :: more ∧ (c = '.' ∨ c = '#' ∨ Text.asciiLetter c = true) := by
  obtain ⟨c, more, hname, hletter⟩ := s.name_eq_cons
  cases hkind : s.kind with
  | className => exact ⟨'.', s.name.toList, by simp [css, hkind, StepKind.sign], .inl rfl⟩
  | identity => exact ⟨'#', s.name.toList, by simp [css, hkind, StepKind.sign], .inr (.inl rfl)⟩
  | tag => exact ⟨c, more, by simp [css, hkind, StepKind.sign, hname], .inr (.inr hletter)⟩

end Step

end Rule

namespace Selector

open Rule (Step isStepChar)

/-! ### Names -/

/-- A name ends here: at the end of the text, or at a space. -/
def Ends (rest : List Char) : Prop := ∀ c ∈ rest.head?, c = ' '

theorem taken_append (s rest : List Char) : taken (s ++ rest) rest = s := by simp [taken]

section
variable {s rest : List Char}

theorem nameRest_run (h : ∀ c ∈ s, isStepChar c = true) (hends : Ends rest) (fuel : Nat)
    (hfuel : s.length ≤ fuel) : nameRest fuel (s ++ rest) = rest := by
  induction s generalizing fuel with
  | nil =>
    match fuel, rest with
    | 0, _ => rfl
    | fuel + 1, [] => rfl
    | fuel + 1, c :: rest =>
      obtain rfl : c = ' ' := hends c rfl
      rfl
  | cons c s ih =>
    obtain ⟨fuel, rfl⟩ : ∃ f, fuel = f + 1 := ⟨fuel - 1, by simp at hfuel; omega⟩
    have hc := h c List.mem_cons_self
    rw [List.cons_append, nameRest.eq_2 fuel c _ (Rule.ne_of_step hc '\\' (by decide)),
      if_pos (Rule.isNameChar_of_step hc)]
    exact ih (fun d hd => h d (List.mem_cons_of_mem c hd)) fuel (by simpa using hfuel)

theorem name?_step (s : Step) (hends : Ends rest) :
    name? (s.name.toList ++ rest) = some (s.name.toList, rest) := by
  obtain ⟨c, more, hname, hletter⟩ := s.name_eq_cons
  have hchars := s.plain.2
  rw [hname] at hchars
  have hc := hchars c List.mem_cons_self
  have hstart : isNameStart c = true := by simp [isNameStart, hletter]
  have hrest := nameRest_run (fun d hd => hchars d (List.mem_cons_of_mem c hd)) hends
    (more ++ rest).length (by simp)
  have hdash : c = '-' → False := by
    rintro rfl
    exact absurd hletter (by decide)
  have hfirst : nameStart? (c :: (more ++ rest)) = some (more ++ rest) := by
    rw [nameStart?.eq_2 c _ (Rule.ne_of_step hc '\\' (by decide)), if_pos hstart]
  rw [hname, List.cons_append, name?.eq_3 _ (fun _ e => hdash (List.cons.inj e).1)
    (fun _ e => hdash (List.cons.inj e).1), hfirst, Option.map_some, hrest]
  exact congrArg (fun raw => some (raw, rest)) (taken_append (c :: more) rest)

/-- A name alone is the name of an element in any name space. -/
theorem elementName?_step (s : Step) (hends : Ends rest) :
    elementName? (s.name.toList ++ rest) = some (none, s.name.toList, rest) := by
  have hname := name?_step s hends
  have hne := fun d hd r => s.name_append_ne (d := d) hd rest r
  have hany : nameOrAny? (s.name.toList ++ rest) = some (s.name.toList, rest) := by
    rw [nameOrAny?.eq_2 _ (hne '*' (by decide)), hname]
  have hspace : space? (s.name.toList ++ rest) = none := by
    rw [space?.eq_2 _ (hne '|' (by decide)), hany]
    split
    · next r e =>
      obtain ⟨-, rfl⟩ := Prod.mk.inj (Option.some.inj e)
      exact absurd (hends '|' rfl) (by decide)
    · rfl
  simp [elementName?, hspace, hany]

/-- A name without a backslash stands for itself. -/
theorem nameText_step (s : Step) : nameText s.name.toList = .ok s.name := by
  have hplain : ∀ t : List Char, (∀ c ∈ t, isStepChar c = true) → ∀ fuel, t.length ≤ fuel →
      unescapeFrom false fuel t = .ok t := by
    intro t ht
    induction t with
    | nil => intro fuel _; cases fuel <;> rfl
    | cons c t ih =>
      intro fuel hfuel
      obtain ⟨fuel, rfl⟩ : ∃ f, fuel = f + 1 := ⟨fuel - 1, by simp at hfuel; omega⟩
      have hc := Rule.ne_of_step (ht c List.mem_cons_self) '\\' (by decide)
      rw [unescapeFrom.eq_3 false fuel c t hc,
        ih (fun d hd => ht d (List.mem_cons_of_mem c hd)) fuel (by simpa using hfuel)]
      rfl
  rw [nameText, unescape, hplain _ s.plain.2 _ (Nat.le_refl _)]
  simp [Except.map]

end

/-! ### Blanks -/

def StepStart (c : Char) : Prop := c = '.' ∨ c = '#' ∨ Text.asciiLetter c = true

section
variable {c : Char}

theorem StepStart.solid (h : StepStart c) : Text.isMarkupBlank c = false ∧ c ≠ '/' := by
  rcases h with rfl | rfl | hletter
  · decide
  · decide
  · have hstep := Rule.isStepChar_of_letter hletter
    exact ⟨Rule.isMarkupBlank_of_step hstep, Rule.ne_of_step hstep '/' (by decide)⟩

theorem StepStart.noSign (h : StepStart c) : c ≠ ')' ∧ Joint.ofChar? c = none := by
  rcases h with rfl | rfl | hletter
  · decide
  · decide
  · exact Rule.forall_step (p := fun c => c ≠ ')' ∧ Joint.ofChar? c = none) (by decide)
      (Rule.isStepChar_of_letter hletter)

theorem blank?_of_solid (h : Text.isMarkupBlank c = false) (s : List Char) :
    blank? (c :: s) = none := by
  have hreturn : c = '\r' → False := by
    rintro rfl
    exact absurd h (by decide)
  rw [blank?.eq_2 c s (fun _ e _ => hreturn e), h]
  rfl

theorem comment?_of_ne (h : c ≠ '/') (s : List Char) : comment? (c :: s) = none := by
  rw [comment?.eq_2 (c :: s) (fun _ e => h (List.cons.inj e).1)]

theorem skipFrom_start (h : StepStart c) (fuel : Nat) (s : List Char) :
    skipFrom fuel (c :: s) = c :: s := by
  cases fuel with
  | zero => rfl
  | succ fuel => rw [skipFrom, blank?_of_solid h.solid.1, comment?_of_ne h.solid.2]

theorem skip_start (h : StepStart c) (s : List Char) : skip (c :: s) = c :: s :=
  skipFrom_start h _ s

theorem skip_space (h : StepStart c) (s : List Char) : skip (' ' :: c :: s) = c :: s := by
  have hblank : blank? (' ' :: c :: s) = some (c :: s) := rfl
  rw [skip, List.length_cons, skipFrom, hblank]
  exact skipFrom_start h _ s

end

theorem blank?_some {s r : List Char} (h : blank? s = some r) :
    ∃ front, s = front ++ r ∧ ∀ c ∈ front, Text.isMarkupBlank c = true := by
  unfold blank? at h
  split at h
  · next s => exact ⟨['\r', '\n'], by simpa using h, by simp [Text.isMarkupBlank]⟩
  · next c s _ =>
    split at h
    · next hblank => exact ⟨[c], by simpa using h, by simpa using hblank⟩
    · cases h
  · cases h

/-- Something is left after the blanks of a text with anything else in it. -/
theorem skipFrom_ne_nil (fuel : Nat) {s : List Char} (hslash : '/' ∉ s)
    (hsolid : ∃ c ∈ s, Text.isMarkupBlank c = false) : skipFrom fuel s ≠ [] := by
  obtain ⟨c, hc, hblank⟩ := hsolid
  induction fuel generalizing s with
  | zero => exact List.ne_nil_of_mem hc
  | succ fuel ih =>
    rw [skipFrom]
    cases hfront : blank? s with
    | some r =>
      obtain ⟨front, rfl, hall⟩ := blank?_some hfront
      have hr : c ∈ r := by
        rcases List.mem_append.mp hc with hmem | hmem
        · rw [hall c hmem] at hblank
          cases hblank
        · exact hmem
      exact ih (fun hmem => hslash (List.mem_append_right front hmem)) hr
    | none =>
      have hcomment : comment? s = none := by
        rw [comment?.eq_2 s fun r e => hslash (e ▸ List.mem_cons_self)]
      simp only [hcomment]
      exact List.ne_nil_of_mem hc

theorem trailing_eq_zero {s : List Char} (hslash : '/' ∉ s)
    (hlast : ∀ c ∈ s.getLast?, Text.isMarkupBlank c = false) : trailing s = 0 := by
  induction s with
  | nil => rfl
  | cons c s ih =>
    obtain ⟨d, hd⟩ : ∃ d, (c :: s).getLast? = some d := ⟨_, List.getLast?_cons⟩
    have hsome := skipFrom_ne_nil (c :: s).length hslash ⟨d, List.mem_of_getLast? hd, hlast d hd⟩
    have hkeep : (skip (c :: s)).isEmpty = false := List.isEmpty_eq_false_iff.mpr hsome
    rw [trailing, hkeep]
    refine ih (fun hmem => hslash (List.mem_cons_of_mem c hmem)) fun e he => hlast e ?_
    cases s with
    | nil => cases he
    | cons => simpa using he

/-! ### Steps -/

section
variable {c : Char}

theorem closing?_start (h : StepStart c) (s : List Char) : closing? (c :: s) = none := by
  rw [closing?, skip_start h]
  split
  · next e => exact absurd (List.cons.inj e).1 h.noSign.1
  · rfl

theorem closing?_space (h : StepStart c) (s : List Char) : closing? (' ' :: c :: s) = none := by
  rw [closing?, skip_space h]
  split
  · next e => exact absurd (List.cons.inj e).1 h.noSign.1
  · rfl

theorem joint?_space (h : StepStart c) (fuel : Nat) (s : List Char) :
    joint? (fuel + 1) (' ' :: c :: s) = some (.inside, c :: s) := by
  have hblank : blank? (' ' :: c :: s) = some (c :: s) := rfl
  rw [joint?, show Joint.ofChar? ' ' = none from rfl]
  simp [hblank, h.noSign.2, skip_start h]

end

section
variable {rest : List Char}

/-- A step is read as one part, with its condition. -/
theorem listStep_step (s : Step) (hends : Ends rest) {d : Draft} (hempty : d.filled = false)
    (index : Nat) :
    listStep .outermost index d (s.css ++ rest) = .ok (.part (d.add s.condition) rest) := by
  have hname := name?_step s hends
  have htext := nameText_step s
  have hclosing : closing? (s.css ++ rest) = none := by
    obtain ⟨c, more, hcss, hstart⟩ := s.css_eq_cons
    rw [hcss]
    exact closing?_start hstart _
  cases hkind : s.kind with
  | className =>
    have hsign : s.css ++ rest = '.' :: (s.name.toList ++ rest) := by
      simp [Step.css, hkind, Rule.StepKind.sign]
    rw [hsign] at hclosing ⊢
    simp [listStep, hclosing, hname, htext, Except.map, Step.condition, hkind]
  | identity =>
    have hsign : s.css ++ rest = '#' :: (s.name.toList ++ rest) := by
      simp [Step.css, hkind, Rule.StepKind.sign]
    rw [hsign] at hclosing ⊢
    simp [listStep, hclosing, hname, htext, Except.map, Step.condition, hkind]
  | tag =>
    have hsign : s.css ++ rest = s.name.toList ++ rest := by
      simp [Step.css, hkind, Rule.StepKind.sign]
    have hne := fun d hd r => s.name_append_ne (d := d) hd rest r
    rw [hsign] at hclosing ⊢
    rw [listStep.eq_6 _ _ _ _ (hne ':' (by decide)) (hne '&' (by decide)) (hne '#' (by decide))
      (hne '.' (by decide)) (hne '[' (by decide)), hclosing, elementName?_step s hends]
    have hspace : (none : Option (List Char)).mapM nameText = .ok none := rfl
    simp [hempty, htext, hspace, Step.condition, hkind]

/-- After a step a space leads on to the step that follows, which is inside. -/
theorem listStep_space {c : Char} (h : StepStart c) (s : List Char) {d : Draft}
    (hfilled : d.filled = true) (index : Nat) :
    listStep .outermost index d (' ' :: c :: s)
      = .ok (.part
          { d with compound := .empty, filled := false, left := some (.ancestor, d.joined) }
          (c :: s)) := by
  have hspace : elementName? (' ' :: c :: s) = none := by rfl
  have hjoint := joint?_space h (' ' :: c :: s).length s
  rw [listStep.eq_6 _ _ _ _ (fun _ e => by cases e) (fun _ e => by cases e) (fun _ e => by cases e)
    (fun _ e => by cases e) (fun _ e => by cases e), closing?_space h, hspace]
  simp only [hjoint]
  simp [Draft.join, Draft.combine, hfilled, Joint.back, Except.map]

end

/-! ### Lists of steps -/

def draft : List Step → Draft
  | [] => .start
  | t :: ts => { Draft.start with left := some (.ancestor, compound t ts) }

theorem draft_filled (others : List Step) : (draft others).filled = false := by cases others <;> rfl

theorem conclude_draft (s : Step) (others : List Step) :
    ((draft others).add s.condition).conclude .outermost = .ok (.any [compound s others]) := by
  cases others <;> rfl

theorem next_draft (s : Step) (others : List Step) :
    { (draft others).add s.condition with
      compound := .empty, filled := false,
      left := some (.ancestor, ((draft others).add s.condition).joined) }
      = draft (s :: others) := by
  cases others <;> rfl

theorem cssAll_front (steps : List Step) (last : Step) :
    ∃ c r, StepStart c ∧ Step.cssAll (steps ++ [last]) = c :: r := by
  obtain ⟨t, more, hmore⟩ : ∃ t more, steps ++ [last] = t :: more :=
    List.exists_cons_of_ne_nil (by simp)
  obtain ⟨c, r, hcss, hstart⟩ := t.css_eq_cons
  rw [hmore]
  cases more with
  | nil => exact ⟨c, r, hstart, by simpa [Step.cssAll, Text.joinChar] using hcss⟩
  | cons u more =>
    exact ⟨c, r ++ ' ' :: Step.cssAll (u :: more), hstart,
      by rw [Step.cssAll_cons, hcss, List.cons_append]⟩

/-- Steps are read one after another, each inside those before it. -/
theorem list_steps (total : Nat) (steps : List Step) (last : Step) (others : List Step) (fuel : Nat)
    (hfuel : (Step.cssAll (steps ++ [last])).length < fuel) :
    list total 0 fuel .outermost (draft others) (Step.cssAll (steps ++ [last]))
      = .ok (.any [compound last (steps.reverse ++ others)], []) := by
  induction steps generalizing others fuel with
  | nil =>
    have hlast : Step.cssAll ([] ++ [last]) = last.css ++ [] := by simp [Step.cssAll, Text.joinChar]
    rw [hlast] at hfuel ⊢
    obtain ⟨c, more, hcss, -⟩ := last.css_eq_cons
    obtain ⟨fuel, rfl⟩ : ∃ f, fuel = f + 2 := ⟨fuel - 2, by simp [hcss] at hfuel; omega⟩
    have hsome : ¬ (last.css ++ []).length ≤ 0 := by simp [hcss]
    rw [list, if_neg hsome, listStep_step last (by simp [Ends]) (draft_filled others)]
    simp only [list, List.length_nil, Nat.le_refl, if_true, conclude_draft]
    rfl
  | cons s steps ih =>
    obtain ⟨t, more, hmore⟩ : ∃ t more, steps ++ [last] = t :: more :=
      List.exists_cons_of_ne_nil (by simp)
    have hcons :
        Step.cssAll (s :: steps ++ [last]) = s.css ++ ' ' :: Step.cssAll (steps ++ [last]) := by
      rw [List.cons_append, hmore]
      rfl
    obtain ⟨c, r, hstart, hrest⟩ := cssAll_front steps last
    rw [hcons] at hfuel ⊢
    obtain ⟨d, r', hcss, -⟩ := s.css_eq_cons
    obtain ⟨fuel, rfl⟩ : ∃ f, fuel = f + 2 := ⟨fuel - 2, by simp [hcss] at hfuel; omega⟩
    have hsome : ¬ (s.css ++ ' ' :: Step.cssAll (steps ++ [last])).length ≤ 0 := by simp
    have hspace : ¬ (' ' :: Step.cssAll (steps ++ [last])).length ≤ 0 := by simp
    have hshort : (Step.cssAll (steps ++ [last])).length < fuel := by
      simp only [hcss, List.length_append, List.length_cons] at hfuel
      omega
    rw [list, if_neg hsome, listStep_step s (by simp [Ends]) (draft_filled others)]
    simp only
    rw [list, if_neg hspace, hrest, listStep_space hstart r rfl, ← hrest]
    simp only [next_draft]
    rw [ih (s :: others) fuel hshort]
    simp

/-! ### The whole selector -/

theorem css_chars {s : Step} {c : Char} (h : c ∈ s.css) :
    c = '.' ∨ c = '#' ∨ isStepChar c = true := by
  rcases List.mem_append.mp h with hsign | hname
  · cases hkind : s.kind <;> simp [hkind, Rule.StepKind.sign] at hsign <;> simp [hsign]
  · exact .inr (.inr (s.plain.2 c hname))

theorem cssAll_chars {steps : List Step} {c : Char} (h : c ∈ Step.cssAll steps) :
    c = ' ' ∨ c = '.' ∨ c = '#' ∨ isStepChar c = true := by
  rcases Text.mem_joinChar h with rfl | ⟨_, hpart, hc⟩
  · exact .inl rfl
  · obtain ⟨s, -, rfl⟩ := List.mem_map.mp hpart
    exact .inr (css_chars hc)

/-- The steps of a rule, a space apart, state the condition of the chain that they ask
    for. -/
theorem parse_steps (steps : List Step) (last : Step) :
    parse (String.ofList (Step.cssAll (steps ++ [last])))
      = .ok (.any [compound last steps.reverse]) := by
  have hmissing (d : Char) (hd : ¬ (d = ' ' ∨ d = '.' ∨ d = '#' ∨ isStepChar d = true)) :
      d ∉ Step.cssAll (steps ++ [last]) := fun hmem => hd (cssAll_chars hmem)
  have hsame : (Step.cssAll (steps ++ [last])).map (fun c => if c = '\x00' then '\uFFFD' else c)
      = Step.cssAll (steps ++ [last]) := by
    refine (List.map_congr_left fun c hc => ?_).trans (List.map_id _)
    exact if_neg fun (e : c = '\x00') => hmissing '\x00' (by decide) (e ▸ hc)
  have htrailing : trailing (Step.cssAll (steps ++ [last])) = 0 := by
    refine trailing_eq_zero (hmissing '/' (by decide)) fun c hc => ?_
    obtain ⟨front, hfront⟩ := Text.joinChar_concat ' ' (steps.map Step.css) last.css
    obtain ⟨d, more, hcss, -⟩ := last.css_eq_cons
    have hlast : c ∈ last.css.getLast? := by
      have hend : Step.cssAll (steps ++ [last]) = front ++ last.css := by
        simpa [Step.cssAll] using hfront
      rwa [hend, List.getLast?_append_of_ne_nil _ (by simp [hcss])] at hc
    rcases css_chars (List.mem_of_getLast? hlast) with rfl | rfl | hstep
    · decide
    · decide
    · exact Rule.isMarkupBlank_of_step hstep
  have hread :=
    list_steps (Step.cssAll (steps ++ [last])).length steps last [] _ (Nat.lt_succ_self _)
  have hskip : skip (Step.cssAll (steps ++ [last])) = Step.cssAll (steps ++ [last]) := by
    obtain ⟨c, r, hstart, hfront⟩ := cssAll_front steps last
    rw [hfront, skip_start hstart]
  rw [parse, String.toList_ofList]
  simp only [hsame, htrailing, hskip]
  rw [show Draft.start = draft [] from rfl, hread, List.append_nil]
  rfl

end Selector

end Gleaner
