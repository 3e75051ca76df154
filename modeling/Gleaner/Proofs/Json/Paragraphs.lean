/-
  Gleaner/Proofs/Json/Paragraphs.lean
  ===================================
  **Lists as paragraphs.**  The leaves of a list are the values in it that are no lists, at
  any depth.  The list is shown as the texts of its leaves, one below the other, without the
  empty ones (`asText_arr`), and as a whole it cannot be written exactly if one of them
  cannot.  So the brackets between the leaves never matter, nor do nulls, empty texts and
  empty lists (`lists_shown_by_leaves`).
-/
import Gleaner.Json.Shown
import Mathlib.Logic.Relation

namespace Gleaner.Json

variable {v : Json} {vs ws : List Json}

/-! ### Leaves -/

mutual
def leavesIn : Json → List Json
  | .arr items => leaves items
  | v => [v]
/-- The values of a list that are no lists, with the leaves of each list in it in its place. -/
def leaves : List Json → List Json
  | [] => []
  | v :: vs => leavesIn v ++ leaves vs
end

mutual
theorem items?_leavesIn : ∀ v : Json, ∀ w ∈ leavesIn v, w.items? = none
  | .arr vs => items?_leaves vs
  | .null | .bool _ | .int _ | .real _ | .str _ | .obj _ => by simp [leavesIn, items?]
/-- No leaf is a list. -/
theorem items?_leaves : ∀ vs : List Json, ∀ w ∈ leaves vs, w.items? = none
  | [] => by simp [leaves]
  | v :: vs => by
    rw [leaves, List.forall_mem_append]
    exact ⟨items?_leavesIn v, items?_leaves vs⟩
end

theorem leavesIn_of_no_items (h : v.items? = none) : leavesIn v = [v] := by
  cases v with
  | arr => cases h
  | _ => rfl

/-- A list without lists in it has nothing but leaves. -/
theorem leaves_of_no_items (h : ∀ v ∈ vs, v.items? = none) : leaves vs = vs := by
  induction vs with
  | nil => rfl
  | cons v vs ih =>
    obtain ⟨hv, hvs⟩ := List.forall_mem_cons.mp h
    rw [leaves, leavesIn_of_no_items hv, ih hvs, List.singleton_append]

theorem leaves_leaves (vs : List Json) : leaves (leaves vs) = leaves vs :=
  leaves_of_no_items (items?_leaves vs)

/-! ### Paragraphs -/

def paragraphs (texts : List String) : String := "\n".intercalate (texts.filter (· ≠ ""))

/-- One text below the other; an empty one leaves no line. -/
def stacked (s t : String) : String := if s = "" then t else if t = "" then s else s ++ "\n" ++ t

@[simp] theorem stacked_empty_left (t : String) : stacked "" t = t := if_pos rfl

theorem paragraphs_singleton (s : String) : paragraphs [s] = s := by
  by_cases h : s = "" <;> simp [paragraphs, h]

/-- There is no line exactly if every text is empty. -/
theorem paragraphs_eq_empty {texts : List String} :
    paragraphs texts = "" ↔ texts.filter (· ≠ "") = [] := by
  have hkept : ∀ s ∈ texts.filter (· ≠ ""), s ≠ "" := fun s hs => by
    simpa using (List.mem_filter.mp hs).2
  rw [paragraphs]
  match texts.filter (· ≠ ""), hkept with
  | [], _ => simp
  | [s], hkept => simp [hkept]
  | s :: t :: more, hkept => simp

/-- The paragraphs of two lists of texts are those of the one below those of the other. -/
theorem paragraphs_append (xs ys : List String) :
    paragraphs (xs ++ ys) = stacked (paragraphs xs) (paragraphs ys) := by
  unfold stacked
  simp only [paragraphs_eq_empty]
  unfold paragraphs
  rw [List.filter_append]
  split
  · next hx => rw [hx, List.nil_append]
  · next hx =>
    split
    · next hy => rw [hy, List.append_nil]
    · next hy => rw [String.intercalate_append_of_ne_nil hx hy]

theorem stringifyAll_eq_map (vs : List Json) : stringifyAll vs = vs.map stringify := by
  induction vs with
  | nil => rfl
  | cons v vs ih => rw [stringifyAll, ih, List.map_cons]

theorem stringify_arr (vs : List Json) : stringify (.arr vs) = paragraphs (vs.map stringify) := by
  rw [stringify, stringifyAll_eq_map, paragraphs]

mutual
theorem paragraphs_leavesIn : ∀ v : Json, paragraphs ((leavesIn v).map stringify) = stringify v
  | .arr vs => by rw [leavesIn, paragraphs_leaves vs, stringify_arr]
  | .null | .bool _ | .int _ | .real _ | .str _ | .obj _ => paragraphs_singleton _
/-- The joins inside a list may be left out: a list in it that has nothing to show leaves no
    line, and the lines of another one stand between those around it. -/
theorem paragraphs_leaves :
    ∀ vs : List Json, paragraphs ((leaves vs).map stringify) = paragraphs (vs.map stringify)
  | [] => rfl
  | v :: vs => by
    rw [leaves, List.map_append, paragraphs_append, paragraphs_leavesIn v, paragraphs_leaves vs,
      List.map_cons, ← List.singleton_append, paragraphs_append, paragraphs_singleton]
end

/-! ### Values that can be written -/

theorem areShort_append (vs ws : List Json) :
    areShort (vs ++ ws) = (areShort vs && areShort ws) := by
  induction vs with
  | nil => rfl
  | cons v vs ih => rw [List.cons_append, areShort, ih, areShort, Bool.and_assoc]

mutual
theorem areShort_leavesIn : ∀ v : Json, areShort (leavesIn v) = v.isShort
  | .arr vs => areShort_leaves vs
  | .null | .bool _ | .int _ | .real _ | .str _ | .obj _ => Bool.and_true _
theorem areShort_leaves : ∀ vs : List Json, areShort (leaves vs) = areShort vs
  | [] => rfl
  | v :: vs => by rw [leaves, areShort_append, areShort_leavesIn v, areShort_leaves vs, areShort]
end

/-- All items can be shown exactly if all their numbers are short enough. -/
theorem mapM_asText (vs : List Json) :
    vs.mapM asText
      = if areShort vs then .ok (vs.map stringify)
      else .error (.badValue Text.writingLimitText) := by
  induction vs with
  | nil => rfl
  | cons v vs ih =>
    rw [List.mapM_cons, ih, areShort, asText]
    cases v.isShort <;> cases areShort vs <;> rfl

/-- A list is shown as the paragraphs of its leaves, if each of them can be written. -/
theorem asText_arr (vs : List Json) :
    asText (.arr vs) = ((leaves vs).mapM asText).map paragraphs := by
  rw [mapM_asText, areShort_leaves, asText, isShort, stringify_arr]
  cases areShort vs with
  | false => rfl
  | true =>
    simp only [if_pos, Except.map]
    rw [paragraphs_leaves]

theorem asText_append (vs ws : List Json) :
    asText (.arr (vs ++ ws)) = do return stacked (← asText (.arr vs)) (← asText (.arr ws)) := by
  simp only [asText, isShort, areShort_append, stringify_arr, List.map_append, paragraphs_append]
  cases areShort vs <;> cases areShort ws <;> rfl

theorem asText_singleton (v : Json) : asText (.arr [v]) = asText v := by
  rw [asText, isShort, areShort, areShort, Bool.and_true, stringify_arr, List.map_singleton,
    paragraphs_singleton, asText]

/-- What stands before a value of a list, the value, and what stands after it are shown one
    below the other. -/
theorem asText_between (front : List Json) (v : Json) (back : List Json) :
    asText (.arr (front ++ v :: back)) = do
      return stacked (← asText (.arr front)) (stacked (← asText v) (← asText (.arr back))) := by
  rw [asText_append, ← List.singleton_append, asText_append, asText_singleton]
  cases asText (.arr front) <;> cases asText v <;> cases asText (.arr back) <;> rfl

/-! ### Brackets -/

inductive Silent : Json → Prop
  | null : Silent .null
  | str : Silent (.str "")
  | arr : Silent (.arr [])

theorem Silent.asText (h : Silent v) : v.asText = .ok "" := by
  cases h <;> rfl

/-- A list with less in it that cannot be seen: without a silent value, without the brackets
    of a list in it, or so changed inside such a list. -/
inductive Loosens : List Json → List Json → Prop
  | drop (front : List Json) {v : Json} (h : Silent v) (back : List Json) :
      Loosens (front ++ v :: back) (front ++ back)
  | unwrap (front vs back : List Json) : Loosens (front ++ .arr vs :: back) (front ++ (vs ++ back))
  | inside (front : List Json) {vs ws : List Json} (h : Loosens vs ws) (back : List Json) :
      Loosens (front ++ .arr vs :: back) (front ++ .arr ws :: back)

/-- What cannot be seen makes no difference to the text of a list. -/
theorem Loosens.asText (h : Loosens vs ws) : asText (.arr vs) = asText (.arr ws) := by
  induction h with
  | drop front h back =>
    rw [asText_between, h.asText, asText_append]
    cases Json.asText (.arr front) <;> cases Json.asText (.arr back) <;> simp [bind, Except.bind]
  | unwrap front vs back =>
    rw [asText_between, asText_append, asText_append]
    cases Json.asText (.arr front) <;> cases Json.asText (.arr vs) <;> cases Json.asText
      (.arr back) <;> rfl
  | inside front _ back ih => rw [asText_between, asText_between, ih]

/-- A list is shown by its leaves alone: as their texts that are not empty, each on a line of
    its own.  However brackets are set or taken away, and nulls, empty texts and empty lists
    put in or left out, its text stays; and two lists in one are shown one below the other. -/
theorem lists_shown_by_leaves :
    (∀ vs, asText (.arr vs) = ((leaves vs).mapM asText).map paragraphs)
    ∧ (∀ vs, (∀ v ∈ leaves vs, v.items? = none) ∧ asText (.arr vs) = asText (.arr (leaves vs)))
    ∧ (∀ vs ws, Relation.EqvGen Loosens vs ws → asText (.arr vs) = asText (.arr ws))
    ∧ ∀ vs ws, asText (.arr (vs ++ ws))
      = do return stacked (← asText (.arr vs)) (← asText (.arr ws)) := by
  refine ⟨asText_arr, fun vs => ⟨items?_leaves vs, ?_⟩, fun vs ws h => ?_, asText_append⟩
  · rw [asText_arr, asText_arr (leaves vs), leaves_leaves]
  · induction h with
    | rel _ _ h => exact h.asText
    | refl => rfl
    | symm _ _ _ ih => exact ih.symm
    | trans _ _ _ _ _ ih ih' => exact ih.trans ih'

/-- Two lines with brackets, nulls and empty texts around them, and the same two lines in one
    list. -/
theorem bracketed_lines_shown :
    Relation.EqvGen Loosens [.str "One", .arr [.null, .arr [.str "two"], .str ""], .arr []]
        [.arr [.str "One", .str "two"]]
      ∧ asText (.arr [.str "One", .arr [.null, .arr [.str "two"], .str ""], .arr []])
        = asText (.arr [.arr [.str "One", .str "two"]])
      ∧ asText (.arr [.arr [.str "One", .str "two"]]) = .ok "One\ntwo" := by
  have hempty := Loosens.drop [.str "One", .arr [.null, .arr [.str "two"], .str ""]] .arr []
  have houter := Loosens.unwrap [.str "One"] [.null, .arr [.str "two"], .str ""] []
  have hnull := Loosens.drop [.str "One"] .null [.arr [.str "two"], .str ""]
  have hinner := Loosens.unwrap [.str "One"] [.str "two"] [.str ""]
  have htext := Loosens.drop [.str "One", .str "two"] .str []
  have hwrap := Loosens.unwrap [] [.str "One", .str "two"] []
  have hsame :
      Relation.EqvGen Loosens [.str "One", .arr [.null, .arr [.str "two"], .str ""], .arr []]
      [.arr [.str "One", .str "two"]] :=
    (Relation.EqvGen.rel _ _ hempty).trans _ _ _ <| (Relation.EqvGen.rel _ _ houter).trans _ _ _ <|
      (Relation.EqvGen.rel _ _ hnull).trans _ _ _ <| (Relation.EqvGen.rel _ _ hinner).trans _ _ _ <|
        (Relation.EqvGen.rel _ _ htext).trans _ _ _ <| (Relation.EqvGen.rel _ _ hwrap).symm _ _
  exact ⟨hsame, lists_shown_by_leaves.2.2.1 _ _ hsame, by rfl⟩

end Gleaner.Json
