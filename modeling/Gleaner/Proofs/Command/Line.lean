/-
  Gleaner/Proofs/Command/Line.lean
  ================================
  **Numbers on a command line.**  Options with numbers are sorted out one after another
  (`sort_numbers`).  So a line that asks for a page to explore is understood exactly if each
  of its numbers is short enough to be read (`ofArguments?_exploreLine`); any whole number
  will do, one below zero as well.
-/
import Gleaner.Command.Basic
import Gleaner.Proofs.Text.Decimal

namespace Gleaner.Command

open Text (ShortInt)

/-! ### Sorting -/

section
variable {form : Form} {arg name : String} {g : Given}

theorem sort_place (h : isOption arg = false) (more : List String) :
    sort form g (arg :: more) = sort form { g with places := g.places ++ [arg] } more := by
  have hends : arg ≠ "--" := by
    rintro rfl
    exact absurd h (by decide)
  rw [sort.eq_def]
  dsimp only
  rw [if_neg hends, if_neg (by simp [h])]

/-- The name of an option, written without a value, that takes a number. -/
structure TakesNumber (form : Form) (name : String) : Prop where
  option : isOption name = true
  goesOn : name ≠ "--"
  bare : splitOption name = (name, none)
  noFlag : form.flags.contains name = false
  number : form.numbers.contains name = true

theorem sort_number (h : TakesNumber form name) (value : String) (more : List String) :
    sort form g (name :: value :: more)
      = sort form { g with numbers := g.numbers ++ [(name, value)] } more := by
  rw [sort.eq_def]
  dsimp only
  rw [if_neg h.goesOn, if_pos h.option, h.bare]
  simp only [h.noFlag, h.number, if_true, Bool.false_eq_true, if_false]

def spelled (options : List (String × String)) : List String :=
  options.flatMap fun (name, value) => [name, value]

/-- Options with numbers are kept in their order. -/
theorem sort_numbers {options : List (String × String)}
    (h : ∀ option ∈ options, TakesNumber form option.1) :
    sort form g (spelled options) = some { g with numbers := g.numbers ++ options } := by
  induction options generalizing g with
  | nil => simp [spelled, sort]
  | cons option options ih =>
    obtain ⟨hoption, hrest⟩ := List.forall_mem_cons.mp h
    have hnext := ih (g := { g with numbers := g.numbers ++ [option] }) hrest
    rw [List.append_assoc, List.singleton_append] at hnext
    exact (sort_number hoption option.2 _).trans hnext

end

/-! ### Asking for a page to explore -/

def exploreForm : Form := ⟨["--entry", "--page", "--index"], []⟩

def exploreGiven (file : String) (entry page index : Int) : Given where
  places := [file]
  numbers := [("--entry", toString entry), ("--page", toString page), ("--index", toString index)]
  flags := []

def exploreLine (file : String) (entry page index : Int) : List String :=
  "explore" :: file :: spelled (exploreGiven file entry page index).numbers

section
variable {file : String} (entry page index : Int)

theorem sort_exploreLine (hfile : isOption file = false) :
    sort exploreForm ⟨[], [], []⟩ (exploreLine file entry page index).tail
      = some (exploreGiven file entry page index) := by
  refine (sort_place hfile _).trans (sort_numbers ?_)
  simp only [exploreGiven, List.forall_mem_cons, List.not_mem_nil, false_imp_iff,
    implies_true, and_true]
  exact ⟨by constructor <;> decide, by constructor <;> decide, by constructor <;> decide⟩

/-- A line with whole numbers is understood exactly if they are all short. -/
theorem ofArguments?_exploreLine (hfile : isOption file = false) :
    ofArguments? (exploreLine file entry page index) =
      if ShortInt entry ∧ ShortInt page ∧ ShortInt index then some (.explore file entry page index)
      else none := by
  have hread : ofArguments? (exploreLine file entry page index)
      = (number? (exploreGiven file entry page index) "--entry" 0).bind fun e =>
        (number? (exploreGiven file entry page index) "--page" 1).bind fun p =>
          (number? (exploreGiven file entry page index) "--index" 0).bind fun i =>
            some (.explore file e p i) := by
    obtain ⟨read, hread, hgiven⟩ : ∃ read, ofArguments? (exploreLine file entry page index)
        = (sort exploreForm ⟨[], [], []⟩ (exploreLine file entry page index).tail).bind read
      ∧ read (exploreGiven file entry page index) = _ := ⟨_, rfl, rfl⟩
    rw [hread, sort_exploreLine entry page index hfile, Option.bind_some]
    exact hgiven
  have hentry : number? (exploreGiven file entry page index) "--entry" 0 = _ :=
    Text.parseInt?_toString entry
  have hpage : number? (exploreGiven file entry page index) "--page" 1 = _ :=
    Text.parseInt?_toString page
  have hindex : number? (exploreGiven file entry page index) "--index" 0 = _ :=
    Text.parseInt?_toString index
  rw [hread, hentry, hpage, hindex]
  by_cases he : ShortInt entry <;> by_cases hp : ShortInt page <;> by_cases hi : ShortInt index <;>
    simp [he, hp, hi]

end

end Gleaner.Command
