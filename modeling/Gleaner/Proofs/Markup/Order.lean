/-
  Gleaner/Proofs/Markup/Order.lean
  ================================
  **What is inside an element, and in which order.**  The elements inside a place are
  those that are reached from it by going from an element to one directly inside it
  (`mem_descendants`).  The order of the document is the order of the paths from the
  document inward: an element comes before what is inside it, and that before the next
  element (`descendants_inOrder`).
-/
import Gleaner.Markup.Place
import Mathlib.Data.List.Lex
import Mathlib.Logic.Relation

namespace Gleaner.Markup.Place

/-- The element `q` is inside `p`, at some depth. -/
def IsInside (q p : Place) : Prop :=
  Relation.TransGen (fun outer inner => inner ∈ outer.children) p q

/-- The place `p` comes before `q` in the order of the document. -/
def Before (p q : Place) : Prop := p.path.reverse < q.path.reverse

/-! ### Inside -/

def elementsAmong (up : List Spot) (before ns : List Node) : List Place :=
  (nodesFrom up before ns).filter (·.node.isElement)

section
variable {up : List Spot} {before ns : List Node} {p q : Place}

/-- Every element found is directly there, or inside one that is. -/
theorem reached_of_mem (h : q ∈ elementsFrom up before ns) :
    ∃ c ∈ elementsAmong up before ns, Relation.ReflTransGen
      (fun outer inner => inner ∈ outer.children) c q := by
  fun_induction elementsFrom up before ns with
  | case1 => cases h
  | case2 up before kind s ns ih =>
    simpa [elementsAmong, nodesFrom, node, Node.isElement] using ih h
  | case3 up before name attributes cs ns here ihinside ihafter =>
    have hhere :
        (⟨here, up⟩ : Place) ∈ elementsAmong up before (.element name attributes cs :: ns) := by
      simp [elementsAmong, nodesFrom, node, here, Node.isElement]
    rcases List.mem_cons.mp h with rfl | h
    · exact ⟨_, hhere, .refl⟩
    rcases List.mem_append.mp h with hinside | hafter
    · obtain ⟨c, hc, hreach⟩ := ihinside hinside
      exact ⟨_, hhere, .head hc hreach⟩
    · obtain ⟨c, hc, hreach⟩ := ihafter hafter
      refine ⟨c, ?_, hreach⟩
      have hmem : c ∈ nodesFrom up (.element name attributes cs :: before) ns
          ∧ c.node.isElement = true := by
        simpa [elementsAmong] using hc
      simp [elementsAmong, nodesFrom, hmem]

/-- What is directly there is found, with all that is inside it. -/
theorem mem_elementsFrom (h : p ∈ elementsAmong up before ns) :
    p ∈ elementsFrom up before ns ∧ ∀ q ∈ p.descendants, q ∈ elementsFrom up before ns := by
  induction ns generalizing before with
  | nil => cases h
  | cons n ns ih =>
    cases n with
    | text kind s =>
      have hafter : p ∈ elementsAmong up (.text kind s :: before) ns := by
        simpa [elementsAmong, nodesFrom, node, Node.isElement] using h
      simpa [elementsFrom] using ih hafter
    | element name attributes cs =>
      have hcases : p = ⟨⟨before, .element name attributes cs, ns⟩, up⟩
          ∨ p ∈ elementsAmong up (.element name attributes cs :: before) ns := by
        simpa [elementsAmong, nodesFrom, node, Node.isElement] using h
      rw [elementsFrom]
      rcases hcases with rfl | hafter
      · exact ⟨List.mem_cons_self, fun q hq => List.mem_cons_of_mem _ (List.mem_append_left _ hq)⟩
      · obtain ⟨hself, hinside⟩ := ih hafter
        exact ⟨List.mem_cons_of_mem _ (List.mem_append_right _ hself),
          fun q hq => List.mem_cons_of_mem _ (List.mem_append_right _ (hinside q hq))⟩

/-- The listed descendants are the elements inside, and no others. -/
theorem mem_descendants : q ∈ p.descendants ↔ q.IsInside p := by
  constructor
  · intro h
    obtain ⟨c, hc, hreach⟩ := reached_of_mem h
    exact .head' hc hreach
  · intro h
    induction h using Relation.TransGen.head_induction_on with
    | single hchild => exact (mem_elementsFrom hchild).1
    | head hchild _ ih => exact (mem_elementsFrom hchild).2 q ih

end

/-! ### In order -/

/-- The path to what `up` describes, from the document inward. -/
def steps (up : List Spot) : List Nat := (up.map (·.before.length)).reverse

theorem path_reverse (spot : Spot) (up : List Spot) :
    (path ⟨spot, up⟩).reverse = steps up ++ [spot.before.length] := by
  simp [path, steps]

theorem steps_cons (spot : Spot) (up : List Spot) :
    steps (spot :: up) = steps up ++ [spot.before.length] := by
  simp [steps]

section
variable {up : List Spot} {before ns : List Node} {q : Place}

/-- The path to an element found goes past all that stands before. -/
theorem path_of_mem (h : q ∈ elementsFrom up before ns) :
    ∃ i more, q.path.reverse = steps up ++ i :: more ∧ before.length ≤ i := by
  fun_induction elementsFrom up before ns with
  | case1 => cases h
  | case2 up before kind s ns ih =>
    obtain ⟨i, more, hpath, hle⟩ := ih h
    exact ⟨i, more, hpath, Nat.le_of_succ_le hle⟩
  | case3 up before name attributes cs ns here ihinside ihafter =>
    rcases List.mem_cons.mp h with rfl | h
    · exact ⟨before.length, [], path_reverse here up, Nat.le_refl _⟩
    rcases List.mem_append.mp h with hinside | hafter
    · obtain ⟨i, more, hpath, -⟩ := ihinside hinside
      refine ⟨before.length, i :: more, ?_, Nat.le_refl _⟩
      rw [hpath, steps_cons, List.append_assoc, List.singleton_append]
    · obtain ⟨i, more, hpath, hle⟩ := ihafter hafter
      exact ⟨i, more, hpath, Nat.le_of_succ_le hle⟩

/-- The elements come in the order of the document: each before those inside it, and those
    before the ones after it. -/
theorem elementsFrom_inOrder (up : List Spot) (before ns : List Node) :
    (elementsFrom up before ns).Pairwise Before := by
  fun_induction elementsFrom up before ns with
  | case1 => exact .nil
  | case2 up before kind s ns ih => exact ih
  | case3 up before name attributes cs ns here ihinside ihafter =>
    have hinside : ∀ q ∈ elementsFrom (here :: up) [] cs,
        ∃ i more, q.path.reverse = steps up ++ before.length :: i :: more := by
      intro q hq
      obtain ⟨i, more, hpath, -⟩ := path_of_mem hq
      exact ⟨i, more, by rw [hpath, steps_cons, List.append_assoc, List.singleton_append]⟩
    have hafter : ∀ q ∈ elementsFrom up (.element name attributes cs :: before) ns,
        ∃ i more, q.path.reverse = steps up ++ i :: more ∧ before.length < i := by
      intro q hq
      obtain ⟨i, more, hpath, hlt⟩ := path_of_mem hq
      exact ⟨i, more, hpath, hlt⟩
    refine List.pairwise_cons.mpr ⟨fun q hq => ?_, List.pairwise_append.mpr ⟨ihinside, ihafter, ?_⟩⟩
    · rw [Before, path_reverse here up]
      rcases List.mem_append.mp hq with hq | hq
      · obtain ⟨i, more, hpath⟩ := hinside q hq
        rw [hpath]
        exact List.Lex.append_left _ (.cons .nil) (steps up)
      · obtain ⟨i, more, hpath, hlt⟩ := hafter q hq
        rw [hpath]
        exact List.Lex.append_left _ (.rel hlt) (steps up)
    · intro p hp q hq
      obtain ⟨i, more, hpath⟩ := hinside p hp
      obtain ⟨j, rest, hpath', hlt⟩ := hafter q hq
      rw [Before, hpath, hpath']
      exact List.Lex.append_left _ (.rel hlt) (steps up)

end

/-- The elements inside a place are listed in the order of the document, each once. -/
theorem descendants_inOrder (p : Place) : p.descendants.Pairwise Before :=
  elementsFrom_inOrder _ _ _

end Gleaner.Markup.Place
