/-
  Gleaner/Proofs/Selector/Chain.lean
  ==================================
  **Chains of elements.**  A step asks an element for a class, for its identity or for
  its name.  Steps one after another ask for a chain: an element that satisfies the last
  step, and around it, from the inside out, elements that satisfy the others, however
  many elements stand between them.  The selector made of the steps holds of the elements
  at the inner end of such a chain (`holds_compound`).
-/
import Gleaner.Proofs.Text.Run
import Gleaner.Selector.Match
import Mathlib.Data.List.Forall2

namespace Gleaner

open Markup

/-! ### Steps -/

namespace Rule

inductive StepKind where
  | className
  | identity
  | tag
deriving DecidableEq, Repr

/-- A character of a plain name, from the second on. -/
def isStepChar (c : Char) : Bool := Text.asciiLetter c || Text.asciiDigit c || c == '-' || c == '_'

section
variable {c : Char}

theorem forall_step {p : Char → Prop}
    (hall : ∀ n < 128, isStepChar (Char.ofNat n) = true → p (Char.ofNat n))
    (h : isStepChar c = true) : p c := by
  refine Text.forall_ascii (p := fun c => isStepChar c = true → p c) hall ?_ h
  have hrange : ('a' ≤ c ∧ c ≤ 'z' ∨ 'A' ≤ c ∧ c ≤ 'Z') ∨ ('0' ≤ c ∧ c ≤ '9') ∨ c = '-'
      ∨ c = '_' := by
    simpa [isStepChar, Text.asciiLetter, Text.asciiDigit, or_assoc] using h
  have hle (d : Char) (hd : d.toNat < 128) (hc : c ≤ d) : c.toNat < 128 := Nat.lt_of_le_of_lt hc hd
  rcases hrange with (h | h) | h | rfl | rfl
  · exact hle 'z' (by decide) h.2
  · exact hle 'Z' (by decide) h.2
  · exact hle '9' (by decide) h.2
  · decide
  · decide

theorem isStepChar_of_letter (h : Text.asciiLetter c = true) : isStepChar c = true := by
  simp [isStepChar, h]

end

def PlainStepName (name : String) : Prop :=
  (∃ c ∈ name.toList.head?, Text.asciiLetter c = true) ∧ ∀ c ∈ name.toList, isStepChar c = true

instance (name : String) : Decidable (PlainStepName name) :=
  decidable_of_iff (name.toList.head?.any Text.asciiLetter = true
    ∧ name.toList.all isStepChar = true)
    (by rw [Option.any_eq_true, List.all_eq_true]; rfl)

structure Step where
  kind : StepKind
  name : String
  plain : PlainStepName name

namespace Step

/-- The step holds of a node: one of its classes has the name, its identity is the name,
    or its own name is, the case of ASCII letters ignored. -/
def Holds (s : Step) (n : Node) : Prop :=
  match s.kind with
  | .className => s.name ∈ Text.words ((Selector.attributeValue? n "class").getD "")
  | .identity => Selector.attributeValue? n "id" = some s.name
  | .tag => Text.asciiLower n.name = Text.asciiLower s.name

def condition (s : Step) : Selector :=
  match s.kind with
  | .className => .hasClass s.name
  | .identity => .hasId s.name
  | .tag => .named none s.name

theorem name_eq_cons (s : Step) :
    ∃ c more, s.name.toList = c :: more ∧ Text.asciiLetter c = true := by
  obtain ⟨⟨c, hc, hletter⟩, -⟩ := s.plain
  obtain ⟨more, hname⟩ := List.head?_eq_some_iff.mp hc
  exact ⟨c, more, hname, hletter⟩

theorem name_ne {s : Step} {other : String}
    (h : ∀ c ∈ other.toList.head?, Text.asciiLetter c = false) :
    s.name ≠ other := by
  rintro rfl
  obtain ⟨c, more, hname, hletter⟩ := s.name_eq_cons
  rw [h c (by rw [hname]; rfl)] at hletter
  cases hletter

/-- The condition of a step is satisfied by the elements of which the step holds. -/
theorem holds_condition (v : Selector.View) (strict : Bool) (s : Step) (p : Place) :
    Selector.holds v strict s.condition p = true ↔ s.Holds p.node := by
  unfold condition Holds
  cases s.kind with
  | className => simp [Selector.holds]
  | identity =>
    have hsome : s.name ≠ "" := name_ne (by simp)
    cases hid : Selector.attributeValue? p.node "id" with
    | none => simp [Selector.holds, hid, Ne.symm hsome]
    | some id => simp [Selector.holds, hid]
  | tag =>
    have hany : s.name ≠ "*" := name_ne (by simp [Text.asciiLetter])
    have hholds : Selector.holds v strict (.named none s.name) p = true
        ↔ Text.asciiLower s.name = Text.asciiLower p.node.name := by
      simp [Selector.holds, hany]
    exact hholds.trans eq_comm

end Step

end Rule

/-! ### Chains -/

namespace Markup.Place

/-- Around the element there are others that satisfy the steps, the first one nearest,
    each of them around the one before it. -/
def EndsChain (steps : List Rule.Step) (q : Place) : Prop :=
  ∃ chain : List Place, chain.Sublist q.ancestors
    ∧ List.Forall₂ (fun s p => s.Holds p.node) steps chain

theorem endsChain_nil (q : Place) : EndsChain [] q := ⟨[], List.nil_sublist _, .nil⟩

/-- The nearest element of a chain may be any one around that ends the rest of it. -/
theorem endsChain_cons {s : Rule.Step} {steps : List Rule.Step} {q : Place} :
    EndsChain (s :: steps) q ↔ ∃ p ∈ q.ancestors, s.Holds p.node ∧ EndsChain steps p := by
  obtain ⟨spot, up⟩ := q
  show EndsChain (s :: steps) ⟨spot, up⟩ ↔ ∃ p ∈ ofSpots up, s.Holds p.node ∧ EndsChain steps p
  induction up generalizing spot with
  | nil =>
    constructor
    · rintro ⟨chain, hsub, hholds⟩
      obtain rfl : chain = [] := List.sublist_nil.mp hsub
      cases hholds
    · rintro ⟨p, hp, -⟩
      cases hp
  | cons outer up ih =>
    constructor
    · rintro ⟨chain, hsub, hholds⟩
      -- the nearest element of the chain is the one directly around, or one further out
      cases hsub with
      | cons _ hfurther =>
        obtain ⟨p, hp, hrest⟩ := (ih outer).mp ⟨chain, hfurther, hholds⟩
        exact ⟨p, List.mem_cons_of_mem _ hp, hrest⟩
      | cons_cons _ hmore =>
        cases hholds with
        | cons hfirst hothers => exact ⟨_, List.mem_cons_self, hfirst, _, hmore, hothers⟩
    · rintro ⟨p, hp, hfirst, hrest⟩
      rcases List.mem_cons.mp hp with rfl | hfurther
      · obtain ⟨chain, hsub, hholds⟩ := hrest
        exact ⟨_, hsub.cons_cons _, .cons hfirst hholds⟩
      · obtain ⟨chain, hsub, hholds⟩ := (ih outer).mpr ⟨p, hfurther, hfirst, hrest⟩
        exact ⟨chain, hsub.cons _, hholds⟩

end Markup.Place

/-! ### Selectors of chains -/

namespace Selector

/-- The condition of a step whose element stands inside a chain of the others, nearest
    first. -/
def compound (s : Rule.Step) : List Rule.Step → Selector
  | [] => .all [s.condition]
  | t :: ts => .all [s.condition, .near .ancestor (compound t ts)]

theorem holds_compound (v : View) (s : Rule.Step) (others : List Rule.Step) (q : Place) :
    holds v false (compound s others) q = true ↔ s.Holds q.node ∧ q.EndsChain others := by
  induction others generalizing s q with
  | nil => simp [compound, holds, allHold, Rule.Step.holds_condition, Place.endsChain_nil]
  | cons t ts ih =>
    simp [compound, holds, allHold, Rule.Step.holds_condition, Axis.places, outward, ih,
      Place.endsChain_cons]

end Selector

end Gleaner
