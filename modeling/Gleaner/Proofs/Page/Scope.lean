/-
  Gleaner/Proofs/Page/Scope.lean
  ==============================
  **Where the fields of an item are read.**  In data a rule is followed in an item as it
  is on a page that holds nothing but that item, save that a null stands for the whole
  page (`text_item`).  What a pass over the items counts is therefore settled by the items,
  whatever else the page holds, unless there is a null among them.  Two pages with the same
  items, a null among them, agree exactly if they count alike when each is read as a single
  item (`harvests_agree_iff`).
-/
import Gleaner.Book.Extract
import Gleaner.Proofs.Fault

namespace Gleaner

variable {α β : Type}

/-! ### The value in which the rules for an item are followed -/

/-- What an item stands for on a page of data: itself, or the whole page if it is null. -/
def Json.standsFor (root item : Json) : Json := if item.isNull then root else item

namespace Page

@[simp] theorem valueIn_none (root : Json) : valueIn root none = root := rfl

theorem valueIn_item (root v : Json) : valueIn root (some (.value v)) = root.standsFor v := by
  cases v <;> rfl

theorem text_item (root v : Json) (rule : Option String) :
    (Page.data root).text rule (some (.value v))
      = (Page.data (root.standsFor v)).text rule none := by
  unfold text read?
  dsimp only
  rw [valueIn_item, valueIn_none]

theorem fieldText_item (root v : Json) (rule : Option String) :
    (Page.data root).fieldText (some (.value v)) rule
      = (Page.data (root.standsFor v)).fieldText none rule := by
  unfold fieldText
  rw [text_item]

theorem bookEntry_item (root v : Json) (rules : ListRules) :
    (Page.data root).bookEntry rules (some (.value v))
      = (Page.data (root.standsFor v)).bookEntry rules none := by
  unfold bookEntry
  simp only [fieldText_item]

theorem chapter_item (root v : Json) (rules : TocRules) :
    (Page.data root).chapter rules (some (.value v))
      = (Page.data (root.standsFor v)).chapter rules none := by
  unfold chapter
  simp only [fieldText_item]

/-- The items that a rule selects in data are values. -/
theorem items_data {root : Json} {rule : Option String} {items : List Item}
    (h : (Page.data root).items rule none = .ok items) :
    ∃ vs : List Json, items = vs.map .value := by
  unfold Page.items select at h
  dsimp only at h
  split at h
  · split at h
    · cases h
      exact ⟨_, rfl⟩
    · cases h
      exact ⟨[], rfl⟩
  · obtain ⟨vs, -, hvs⟩ := map_eq_ok.mp h
    exact ⟨vs, hvs.symm⟩

end Page

/-! ### What is counted of a pass -/

/-- The records kept, and how many items were found, failed and were discarded. -/
def Harvest.tally (h : Harvest α) : List α × Nat × Nat × Nat :=
  (h.kept, h.found, h.failed, h.discarded)

namespace Page

/-- How an item counts: not at all if its rules fail, else with its record, which is dropped
    if it identifies nothing. -/
def countsAs (isEmpty : α → Bool) : Except Fault α → Option (Option α)
  | .error _ => none
  | .ok record => some (if isEmpty record then none else some record)

section Gather

variable (build : Item → Except Fault α) (isEmpty : α → Bool)

theorem addOutcome_kept (index : Nat) (outcome : Except Fault α)
    (rest : List α × List (Nat × Fault)) :
    (addOutcome isEmpty index outcome rest).1
      = (countsAs isEmpty outcome).join.toList ++ rest.1 := by
  cases outcome with
  | error e => rfl
  | ok record =>
    unfold addOutcome countsAs
    dsimp only
    split <;> rfl

theorem addOutcome_failed (index : Nat) (outcome : Except Fault α)
    (rest : List α × List (Nat × Fault)) : (addOutcome isEmpty index outcome rest).2.length
      = rest.2.length + if (countsAs isEmpty outcome).isNone then 1 else 0 := by
  cases outcome with
  | error e => rfl
  | ok record =>
    unfold addOutcome countsAs
    dsimp only
    split <;> rfl

theorem gather_kept (index : Nat) (items : List Item) :
    (gather build isEmpty index items).1
      = items.filterMap fun item => (countsAs isEmpty (build item)).join := by
  induction items generalizing index with
  | nil => rfl
  | cons item items ih =>
    rw [gather, addOutcome_kept, ih, List.filterMap_cons]
    cases (countsAs isEmpty (build item)).join <;> rfl

theorem gather_failed (index : Nat) (items : List Item) :
    (gather build isEmpty index items).2.length
      = items.countP fun item => (countsAs isEmpty (build item)).isNone := by
  induction items generalizing index with
  | nil => rfl
  | cons item items ih => rw [gather, addOutcome_failed, ih, List.countP_cons]

end Gather

end Page

/-! ### Where some items count otherwise -/

section Replaced

variable (q : α → Bool) (f : α → Option (Option β)) {x y : Option (Option β)} {as : List α}

/-- How an item counts if all items with the property `q` count as `x`. -/
def Page.replaced (x : Option (Option β)) (a : α) : Option (Option β) := if q a then x else f a

/-- Where some items all count as `x`, counting is counting them and the others apart. -/
theorem Page.countP_replaced (p : Option (Option β) → Bool) (x : Option (Option β)) (as : List α) :
    (as.countP fun a => p (replaced q f x a))
      = (if p x then as.countP q else 0) + (as.filter (!q ·)).countP fun a => p (f a) := by
  induction as with
  | nil => simp
  | cons a as ih =>
    rw [List.countP_cons, List.countP_cons, List.filter_cons, ih]
    by_cases hq : q a = true
    · have hcounts : replaced q f x a = x := if_pos hq
      rw [hcounts, hq]
      by_cases hp : p x = true
      · simp only [hp, if_true, Bool.not_true, Bool.false_eq_true, if_false]
        omega
      · simp only [hp, if_false, Bool.not_true, Bool.false_eq_true]
        omega
    · have hcounts : replaced q f x a = f a := if_neg hq
      rw [hcounts, Bool.eq_false_iff.mpr hq, Bool.not_false, if_pos rfl, List.countP_cons]
      simp only [Bool.false_eq_true, if_false, Nat.add_zero]
      omega

/-- A property that as many items have with `x` as with `y` is one of both or of neither. -/
theorem Page.eq_of_countP_replaced (p : Option (Option β) → Bool) (hmem : ∃ a ∈ as, q a = true)
    (h : (as.countP fun a => p (replaced q f x a)) = as.countP fun a => p (replaced q f y a)) :
    p x = p y := by
  have hpos : 0 < as.countP q := List.countP_pos_iff.mpr hmem
  rw [countP_replaced, countP_replaced] at h
  cases hx : p x with
  | true =>
    cases hy : p y with
    | true => rfl
    | false =>
      simp only [hx, hy, if_true, Bool.false_eq_true, if_false] at h
      omega
  | false =>
    cases hy : p y with
    | true =>
      simp only [hx, hy, if_true, Bool.false_eq_true, if_false] at h
      omega
    | false => rfl

/-- What all such items count as can be told from the records that are kept. -/
theorem Page.eq_of_kept_replaced {a b : β} (hmem : ∃ item ∈ as, q item = true)
    (h : (as.filterMap fun item => (replaced q f (some (some a)) item).join)
      = as.filterMap fun item => (replaced q f (some (some b)) item).join) : a = b := by
  induction as with
  | nil => simp at hmem
  | cons item as ih =>
    rw [List.filterMap_cons, List.filterMap_cons] at h
    by_cases hq : q item = true
    · simp only [replaced, hq, if_true, Option.join_some] at h
      exact (List.cons.inj h).1
    · have hmem' : ∃ item ∈ as, q item = true := by
        obtain ⟨item', hitem', hq'⟩ := hmem
        rcases List.mem_cons.mp hitem' with rfl | htail
        · exact absurd hq' hq
        · exact ⟨item', htail, hq'⟩
      have hsame : ∀ z, replaced q f z item = f item := fun z => if_neg hq
      rw [hsame, hsame] at h
      cases hf : (f item).join with
      | none =>
        rw [hf] at h
        exact ih hmem' h
      | some r =>
        rw [hf] at h
        exact ih hmem' (List.cons.inj h).2

/-- Where some items have the property `q`, the records and the number of failures tell as
    what these items count. -/
theorem Page.replaced_injective (hmem : ∃ a ∈ as, q a = true)
    (hkept : (as.map (replaced q f x)).filterMap Option.join
      = (as.map (replaced q f y)).filterMap Option.join)
    (hfailed : (as.map (replaced q f x)).countP Option.isNone
      = (as.map (replaced q f y)).countP Option.isNone) :
    x = y := by
  rw [List.filterMap_map, List.filterMap_map] at hkept
  rw [List.countP_map, List.countP_map] at hfailed
  have hnone : x.isNone = y.isNone := eq_of_countP_replaced q f Option.isNone hmem hfailed
  have hsome : x.join.isSome = y.join.isSome := by
    refine eq_of_countP_replaced q f (fun z => z.join.isSome) hmem ?_
    have hlength := congrArg List.length hkept
    rwa [List.length_filterMap_eq_countP, List.length_filterMap_eq_countP] at hlength
  match x, y with
  | none, none => rfl
  | none, some _ => cases hnone
  | some _, none => cases hnone
  | some none, some none => rfl
  | some none, some (some _) => cases hsome
  | some (some _), some none => cases hsome
  | some (some a), some (some b) => rw [eq_of_kept_replaced q f hmem hkept]

end Replaced

/-! ### Two pages with the same items -/

namespace Page

/-- How an item counts on a page of data, if this is the record of a value. -/
def countOf (isEmpty : α → Bool) (record : Json → Except Fault α) (root v : Json) :
    Option (Option α) :=
  countsAs isEmpty (record (root.standsFor v))

section Agreement

variable {root root' : Json} {rule : Option String} {vs : List Json}
  {build build' : Item → Except Fault α} (isEmpty : α → Bool) (record : Json → Except Fault α)

theorem countOf_eq_replaced (root : Json) :
    countOf isEmpty record root
      = replaced Json.isNull (fun v => countsAs isEmpty (record v))
        (countsAs isEmpty (record root)) := by
  funext v
  unfold countOf Json.standsFor replaced
  split <;> rfl

/-- The tally of a pass over data depends on how its items count, and on nothing else. -/
theorem harvest_tally (hitems : (Page.data root).items rule none = .ok (vs.map .value))
    (hbuild : ∀ v, build (.value v) = record (root.standsFor v)) :
    ∃ h : Harvest α, (Page.data root).harvest rule build isEmpty = .ok h
      ∧ h.kept = (vs.map (countOf isEmpty record root)).filterMap Option.join
      ∧ h.failed = (vs.map (countOf isEmpty record root)).countP Option.isNone
      ∧ h.found = vs.length := by
  have hcounts : ∀ v, countsAs isEmpty (build (.value v)) = countOf isEmpty record root v := by
    intro v
    rw [hbuild]
    rfl
  unfold harvest
  rw [hitems]
  refine ⟨_, rfl, ?_, ?_, List.length_map _⟩
  · dsimp only
    rw [gather_kept, List.filterMap_map, List.filterMap_map]
    simp only [Function.comp_def, hcounts]
  · unfold Harvest.failed
    dsimp only
    rw [gather_failed, List.countP_map, List.countP_map]
    simp only [Function.comp_def, hcounts]

/-- Whether two pages of data with the same items agree is a matter of the nulls among them. -/
theorem tally_eq_iff (hitems : (Page.data root).items rule none = .ok (vs.map .value))
    (hitems' : (Page.data root').items rule none = .ok (vs.map .value))
    (hbuild : ∀ v, build (.value v) = record (root.standsFor v))
    (hbuild' : ∀ v, build' (.value v) = record (root'.standsFor v)) :
    ((Page.data root).harvest rule build isEmpty).map Harvest.tally
        = ((Page.data root').harvest rule build' isEmpty).map Harvest.tally
      ↔ ((∃ v ∈ vs, v.isNull = true) →
        countsAs isEmpty (record root) = countsAs isEmpty (record root')) := by
  obtain ⟨h, hharvest, hkept, hfailed, hfound⟩ := harvest_tally isEmpty record hitems hbuild
  obtain ⟨h', hharvest', hkept', hfailed', hfound'⟩ := harvest_tally isEmpty record hitems' hbuild'
  rw [hharvest, hharvest']
  constructor
  · intro htally hmem
    have hparts : h.tally = h'.tally := Except.ok.inj htally
    simp only [Harvest.tally, Prod.mk.injEq] at hparts
    rw [hkept, hkept', hfailed, hfailed', countOf_eq_replaced, countOf_eq_replaced] at hparts
    exact replaced_injective _ _ hmem hparts.1 hparts.2.2.1
  · intro hroots
    -- without a null the whole pages do not come in, and with one they count alike
    have hcounts :
        vs.map (countOf isEmpty record root) = vs.map (countOf isEmpty record root') := by
      refine List.map_congr_left fun v hv => ?_
      rw [countOf_eq_replaced, countOf_eq_replaced]
      by_cases hnull : v.isNull = true
      · rw [hroots ⟨v, hv, hnull⟩]
      · unfold replaced
        rw [if_neg hnull, if_neg hnull]
    rw [← hcounts] at hkept' hfailed'
    have htally : h.tally = h'.tally := by
      unfold Harvest.tally Harvest.discarded
      rw [hkept, hkept', hfailed, hfailed', hfound, hfound']
    change Except.ok h.tally = Except.ok h'.tally
    rw [htally]

theorem exists_null_iff : (∃ v ∈ vs, v.isNull = true) ↔ Item.value .null ∈ vs.map Item.value := by
  constructor
  · rintro ⟨v, hv, hnull⟩
    cases v with
    | null => exact List.mem_map_of_mem hv
    | _ => cases hnull
  · intro h
    obtain ⟨v, hv, hitem⟩ := List.mem_map.mp h
    cases hitem
    exact ⟨.null, hv, rfl⟩

end Agreement

/-- Two pages of data on which the rule for a list selects the same items give the same
    records and the same counts, of books and of chapters, whatever else they hold; only if
    there is a null among the items, which is read as the whole page, the two pages as a
    whole must count alike for it. -/
theorem harvests_agree_iff (root root' : Json) :
    (∀ (rules : ListRules) (items : List Item),
      (Page.data root).items rules.bookList none = .ok items →
      (Page.data root').items rules.bookList none = .ok items →
      (((Page.data root).books rules).map Harvest.tally
        = ((Page.data root').books rules).map Harvest.tally
        ↔ (.value .null ∈ items →
          countsAs BookEntry.isEmpty ((Page.data root).bookEntry rules none)
            = countsAs BookEntry.isEmpty ((Page.data root').bookEntry rules none))))
    ∧ ∀ (rules : TocRules) (items : List Item),
      (Page.data root).items rules.chapterList none = .ok items →
      (Page.data root').items rules.chapterList none = .ok items →
      (((Page.data root).chapters rules).map Harvest.tally
          = ((Page.data root').chapters rules).map Harvest.tally
        ↔ (.value .null ∈ items →
          countsAs Chapter.isEmpty ((Page.data root).chapter rules none)
            = countsAs Chapter.isEmpty ((Page.data root').chapter rules none))) := by
  constructor
  · intro rules items h h'
    obtain ⟨vs, rfl⟩ := items_data h
    rw [← exists_null_iff]
    exact tally_eq_iff _ (fun v => (Page.data v).bookEntry rules none) h h'
      (fun v => bookEntry_item root v rules) fun v => bookEntry_item root' v rules
  · intro rules items h h'
    obtain ⟨vs, rfl⟩ := items_data h
    rw [← exists_null_iff]
    exact tally_eq_iff _ (fun v => (Page.data v).chapter rules none) h h'
      (fun v => chapter_item root v rules) fun v => chapter_item root' v rules

/-! ### A page with a list -/

def listing (items : List Json) (others : Json.Members) : Json := .obj (("l", .arr items) :: others)

def listingRules : ListRules := { bookList := some "l", name := some "name" }

def bookAndText : List Json := [.obj [("name", .str "A")], .str "x"]

/-- The name of the page around the list does not matter. -/
theorem listing_harvests_agree :
    (Page.data (listing bookAndText [("name", .str "B")])).items listingRules.bookList none
        = .ok (bookAndText.map .value)
      ∧ (Page.data (listing bookAndText [])).items listingRules.bookList none
        = .ok (bookAndText.map .value)
      ∧ ((Page.data (listing bookAndText [("name", .str "B")])).books
          listingRules).map Harvest.tally
        = ((Page.data (listing bookAndText [])).books listingRules).map Harvest.tally := by
  have h : (Page.data (listing bookAndText [("name", .str "B")])).items listingRules.bookList none
      = .ok (bookAndText.map .value) := by rfl
  have h' : (Page.data (listing bookAndText [])).items listingRules.bookList none
      = .ok (bookAndText.map .value) := by rfl
  refine ⟨h, h', ((harvests_agree_iff _ _).1 listingRules _ h h').mpr fun hnull => ?_⟩
  simp [bookAndText] at hnull

/-- A null in a list takes its name from the page around the list. -/
theorem null_item_takes_name_of_page :
    Page.read (.text "\x7b\"l\":[null],\"name\":\"A\"\x7d")
        = .ok (.data (listing [.null] [("name", .str "A")]))
      ∧ Page.read (.text "\x7b\"l\":[null]\x7d") = .ok (.data (listing [.null] []))
      ∧ (Page.data (listing [.null] [("name", .str "A")])).items listingRules.bookList none
        = .ok [.value .null]
      ∧ (Page.data (listing [.null] [])).items listingRules.bookList none = .ok [.value .null]
      ∧ ((Page.data (listing [.null] [("name", .str "A")])).books listingRules).map Harvest.tally
        ≠ ((Page.data (listing [.null] [])).books listingRules).map Harvest.tally := by
  have hnamed :
      ((Page.data (listing [.null] [("name", .str "A")])).books listingRules).map Harvest.tally
        = .ok ([⟨"A", "", "", "", "", "", "", ""⟩], 1, 0, 0) := by rfl
  have hbare : ((Page.data (listing [.null] [])).books listingRules).map Harvest.tally
      = .ok ([], 1, 0, 1) := by rfl
  refine ⟨by cbv, by cbv, by rfl, by rfl, ?_⟩
  rw [hnamed, hbare]
  simp

end Page

end Gleaner
