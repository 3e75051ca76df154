/-
  Gleaner/Proofs/Page/Account.lean
  ================================
  **What becomes of the items of a list.**  Each item that a rule selects fails, gives a
  record that identifies nothing, or gives a record that is kept, and a harvest accounts for
  all of them (`Accounts`): the failures are noted with their places, in the order of the
  items; the records stand in the order of theirs; what is neither is discarded.  An item that
  fails takes nothing from the others (`recordsOf_others`).  The record of an item has the
  texts that its rules give, without the blanks around them, and fails with the first rule that
  fails (`ReadsFields`).  `passes_account_for_items` says this of books and chapters.
-/
import Gleaner.Proofs.Page.Scope
import Gleaner.Proofs.Text.Trim

namespace Gleaner

variable {α : Type}

namespace Page

/-! ### Failures and their places -/

section Gather

variable (build : Item → Except Fault α) (isEmpty : α → Bool)

def faultAt (p : Item × Nat) : Option (Nat × Fault) :=
  match build p.1 with
  | .ok _ => none
  | .error e => some (p.2, e)

theorem faultAt_eq_some {p : Item × Nat} {i : Nat} {e : Fault} :
    faultAt build p = some (i, e) ↔ p.2 = i ∧ build p.1 = .error e := by
  unfold faultAt
  cases build p.1 <;> simp

/-- The failures are those of the items, with the places at which they stand. -/
theorem gather_failures (index : Nat) (items : List Item) :
    (gather build isEmpty index items).2 = (items.zipIdx index).filterMap (faultAt build) := by
  induction items generalizing index with
  | nil => rfl
  | cons item items ih =>
    rw [gather, List.zipIdx_cons, List.filterMap_cons, ← ih]
    unfold faultAt addOutcome
    dsimp only
    cases build item with
    | error e => rfl
    | ok record =>
      dsimp only
      split <;> rfl

theorem mem_failures {items : List Item} {i : Nat} {e : Fault} :
    (i, e) ∈ (gather build isEmpty 0 items).2 ↔ ∃ item, items[i]? = some item
      ∧ build item = .error e := by
  rw [gather_failures, List.mem_filterMap]
  constructor
  · rintro ⟨⟨item, place⟩, hmem, hfault⟩
    obtain ⟨rfl, he⟩ := (faultAt_eq_some build).mp hfault
    exact ⟨item, List.mem_zipIdx_iff_getElem?.mp hmem, he⟩
  · rintro ⟨item, hitem, he⟩
    exact ⟨(item, i), List.mem_zipIdx_iff_getElem?.mpr hitem, (faultAt_eq_some build).mpr ⟨rfl, he⟩⟩

/-- Failures are noted in the order of their items, and none of them twice. -/
theorem failures_in_order (items : List Item) :
    (gather build isEmpty 0 items).2.Pairwise fun failure later => failure.1 < later.1 := by
  rw [gather_failures, List.pairwise_filterMap]
  have hplaces : (items.zipIdx.map Prod.snd).Pairwise (· < ·) := by
    rw [List.zipIdx_map_snd]
    exact List.pairwise_lt_range'
  refine (List.pairwise_map.mp hplaces).imp ?_
  rintro p p' hlt ⟨i, e⟩ hp ⟨i', e'⟩ hp'
  obtain ⟨rfl, -⟩ := (faultAt_eq_some build).mp hp
  obtain ⟨rfl, -⟩ := (faultAt_eq_some build).mp hp'
  exact hlt

/-! ### Records -/

/-- The records of the items that do not fail, without those that identify nothing. -/
def recordsOf (items : List Item) : List α :=
  (items.filterMap fun item => (build item).toOption).filter fun record => !isEmpty record

def failuresOf (items : List Item) : Nat := items.countP fun item => (build item).toOption.isNone

/-- How many items do not fail and identify nothing. -/
def blanksOf (items : List Item) : Nat := items.countP fun item => (build item).toOption.any isEmpty

theorem gather_records (index : Nat) (items : List Item) :
    (gather build isEmpty index items).1 = recordsOf build isEmpty items := by
  have hcounts : (fun item => (countsAs isEmpty (build item)).join)
      = fun item => (build item).toOption.filter fun record => !isEmpty record := by
    funext item
    cases build item with
    | error e => rfl
    | ok record =>
        cases hempty : isEmpty record <;> simp [countsAs, Except.toOption, Option.filter, hempty]
  rw [gather_kept, recordsOf, List.filter_filterMap, hcounts]

theorem gather_failuresOf (index : Nat) (items : List Item) :
    (gather build isEmpty index items).2.length = failuresOf build items := by
  have hcounts : (fun item => (countsAs isEmpty (build item)).isNone)
      = fun item => (build item).toOption.isNone := by
    funext item
    cases build item <;> rfl
  rw [gather_failed, failuresOf, hcounts]

/-- Every item is kept, failed or blank, and none is two of these. -/
theorem items_divided (items : List Item) :
    (recordsOf build isEmpty items).length + failuresOf build items + blanksOf build isEmpty items
      = items.length := by
  induction items with
  | nil => rfl
  | cons item items ih =>
    unfold recordsOf failuresOf blanksOf at ih ⊢
    rw [List.filterMap_cons, List.countP_cons, List.countP_cons, List.length_cons, ← ih]
    cases build item with
    | error e =>
      simp [Except.toOption]
      omega
    | ok record =>
      cases hempty : isEmpty record <;> simp [Except.toOption, hempty] <;> omega

theorem mem_recordsOf {items : List Item} {record : α} : record ∈ recordsOf build isEmpty items
    ↔ ∃ item ∈ items, build item = .ok record ∧ isEmpty record = false := by
  have hrecord : ∀ item, (build item).toOption = some record ↔ build item = .ok record := by
    intro item
    cases build item <;> simp [Except.toOption]
  unfold recordsOf
  simp only [List.mem_filter, List.mem_filterMap, hrecord, Bool.not_eq_true', ← and_assoc,
    exists_and_right]

/-- If the items without the property `q` fail, what is kept is what the others give alone. -/
theorem recordsOf_others {build' : Item → Except Fault α} {items : List Item} {q : Item → Bool}
    (hothers : ∀ item ∈ items, q item = true → build' item = build item)
    (hfail : ∀ item ∈ items, q item = false → ∃ e, build' item = .error e) :
    recordsOf build' isEmpty items = recordsOf build isEmpty (items.filter q) := by
  unfold recordsOf
  rw [List.filterMap_filter]
  congr 1
  refine List.filterMap_congr fun item hitem => ?_
  cases hq : q item with
  | true => simp [hothers item hitem hq]
  | false =>
    obtain ⟨e, he⟩ := hfail item hitem hq
    simp [he, Except.toOption]

end Gather

/-! ### The account -/

/-- What a harvest says of the items from which it was gathered. -/
structure Accounts (build : Item → Except Fault α) (isEmpty : α → Bool) (items : List Item)
    (h : Harvest α) : Prop where
  found : h.found = items.length
  /-- Each item that fails is noted with its fault, at its place. -/
  failures : ∀ i e, (i, e) ∈ h.failures ↔ ∃ item, items[i]? = some item ∧ build item = .error e
  /-- The places go up, so none of them is noted twice. -/
  inOrder : h.failures.Pairwise fun failure later => failure.1 < later.1
  failed : h.failed = failuresOf build items
  kept : h.kept = recordsOf build isEmpty items
  discarded : h.discarded = blanksOf build isEmpty items
  total : h.found = h.kept.length + h.failed + h.discarded

/-- What is gathered from a list accounts for all of its items. -/
theorem harvest_accounts {page : Page} {rule : Option String} {items : List Item}
    (build : Item → Except Fault α) (isEmpty : α → Bool)
    (hitems : page.items rule none = .ok items) :
    ∃ h, page.harvest rule build isEmpty = .ok h ∧ Accounts build isEmpty items h := by
  have hdivided := items_divided build isEmpty items
  refine ⟨⟨(gather build isEmpty 0 items).1, (gather build isEmpty 0 items).2, items.length⟩,
    ?_, ?_⟩
  · unfold harvest
    rw [hitems]
    rfl
  · have hfailed := gather_failuresOf build isEmpty 0 items
    have hkept := gather_records build isEmpty 0 items
    have hdiscarded : items.length - (gather build isEmpty 0 items).2.length
        - (gather build isEmpty 0 items).1.length = blanksOf build isEmpty items := by
      rw [hfailed, hkept]
      omega
    refine ⟨rfl, fun i e => mem_failures build isEmpty,
      failures_in_order build isEmpty items, hfailed, hkept, hdiscarded, ?_⟩
    unfold Harvest.discarded Harvest.failed
    dsimp only
    rw [hdiscarded, hfailed, hkept, hdivided]

end Page

/-! ### The fields of records -/

def BookEntry.fields (b : BookEntry) : List String :=
  [b.name, b.author, b.url, b.intro, b.kind, b.coverUrl, b.lastChapter, b.wordCount]

def ListRules.fieldRules (r : ListRules) : List (Option String) :=
  [r.name, r.author, r.bookUrl, r.intro, r.kind, r.coverUrl, r.lastChapter, r.wordCount]

def Chapter.fields (c : Chapter) : List String := [c.name, c.url]

def TocRules.fieldRules (r : TocRules) : List (Option String) := [r.chapterName, r.chapterUrl]

theorem BookEntry.fields_injective : Function.Injective BookEntry.fields := by
  rintro ⟨⟩ ⟨⟩ h
  simpa [fields] using h

theorem Chapter.fields_injective : Function.Injective Chapter.fields := by
  rintro ⟨⟩ ⟨⟩ h
  simpa [fields] using h

theorem BookEntry.isEmpty_eq_false {b : BookEntry} :
    b.isEmpty = false ↔ b.name ≠ "" ∨ b.author ≠ "" ∨ b.url ≠ "" ∨ b.intro ≠ "" := by
  unfold isEmpty
  simp only [Bool.and_eq_false_iff, decide_eq_false_iff_not, or_assoc]

theorem Chapter.isEmpty_eq_false {c : Chapter} : c.isEmpty = false ↔ c.name ≠ "" ∨ c.url ≠ "" := by
  unfold isEmpty
  simp only [Bool.and_eq_false_iff, decide_eq_false_iff_not]

namespace Page

/-- The rule gives a text which without the blanks around it is the field. -/
def Gives (page : Page) (item : Item) (rule : Option String) (field : String) : Prop :=
  ∃ text, page.text rule (some item) = .ok text ∧ Text.trim text = field

/-- The record has one field for each rule, and fails with the first rule that fails. -/
structure ReadsFields (page : Page) (item : Item) (rules : List (Option String))
    (fields : α → List String) (record : Except Fault α) : Prop where
  ok : ∀ a, record = .ok a ↔ List.Forall₂ (page.Gives item) rules (fields a)
  error : ∀ e, record = .error e ↔ ∃ front rule back, rules = front ++ rule :: back
    ∧ (∀ before ∈ front, ∃ text, page.text before (some item) = .ok text)
    ∧ page.text rule (some item) = .error e
  trimmed : ∀ a, record = .ok a → ∀ field ∈ fields a, Text.trim field = field

section Fields

variable {page : Page} {item : Item} {rules : List (Option String)} {fields : α → List String}
  {record : Except Fault α}

theorem fieldText_eq_ok {rule : Option String} {field : String} :
    page.fieldText (some item) rule = .ok field ↔ page.Gives item rule field := map_eq_ok

theorem exists_fieldText {rule : Option String} :
    (∃ field, page.fieldText (some item) rule = .ok field)
    ↔ ∃ text, page.text rule (some item) = .ok text := by
  constructor
  · rintro ⟨field, h⟩
    obtain ⟨text, htext, -⟩ := map_eq_ok.mp h
    exact ⟨text, htext⟩
  · rintro ⟨text, htext⟩
    exact ⟨Text.trim text, map_eq_ok.mpr ⟨text, htext, rfl⟩⟩

theorem trimmed_of_gives {texts : List String} (h : List.Forall₂ (page.Gives item) rules texts) :
    ∀ field ∈ texts, Text.trim field = field := by
  induction h with
  | nil => simp
  | cons hgives _ ih =>
    intro field hfield
    rcases List.mem_cons.mp hfield with rfl | hfield
    · obtain ⟨text, -, rfl⟩ := hgives
      exact Text.trim_trim text
    · exact ih field hfield

/-- Fields that are read by their rules are those of the record, and the first rule that
    fails is its fault. -/
theorem reads_fields (hinjective : Function.Injective fields)
    (h : rules.mapM (page.fieldText (some item)) = record.map fields) :
    page.ReadsFields item rules fields record := by
  have hok : ∀ a, record = .ok a ↔ List.Forall₂ (page.Gives item) rules (fields a) := by
    intro a
    have hrecord : record = .ok a ↔ record.map fields = .ok (fields a) := by
      rw [map_eq_ok]
      constructor
      · rintro rfl
        exact ⟨a, rfl, rfl⟩
      · rintro ⟨a', rfl, ha⟩
        rw [hinjective ha]
    rw [hrecord, ← h, mapM_eq_ok]
    simp only [fieldText_eq_ok]
  refine ⟨hok, fun e => ?_, fun a ha => trimmed_of_gives ((hok a).mp ha)⟩
  rw [← map_eq_error (g := fields), ← h, mapM_eq_error]
  simp only [exists_fieldText]
  simp only [fieldText, map_eq_error]

theorem bookEntry_reads_fields (page : Page) (rules : ListRules) (item : Item) :
    page.ReadsFields item rules.fieldRules BookEntry.fields (page.bookEntry rules (some item)) := by
  refine reads_fields BookEntry.fields_injective ?_
  -- both sides are the same binds, once the fields are taken inside
  change _ = BookEntry.fields <$> page.bookEntry rules (some item)
  simp only [bookEntry, ListRules.fieldRules, BookEntry.fields, List.mapM_cons,
    List.mapM_nil, map_bind, bind_assoc, pure_bind, map_pure]

theorem chapter_reads_fields (page : Page) (rules : TocRules) (item : Item) :
    page.ReadsFields item rules.fieldRules Chapter.fields (page.chapter rules (some item)) := by
  refine reads_fields Chapter.fields_injective ?_
  change _ = Chapter.fields <$> page.chapter rules (some item)
  simp only [chapter, TocRules.fieldRules, Chapter.fields, List.mapM_cons, List.mapM_nil,
    map_bind, bind_assoc, pure_bind, map_pure]

end Fields

/-- A pass over the items that a rule selects accounts for all of them, whatever comes of each,
    and if some of them fail the others give what they give alone.  The books and the chapters
    that are kept are, in order, the records of the items that do not fail in which something
    identifies the book or the chapter; their fields are what the rules give, without blanks
    around them. -/
theorem passes_account_for_items (page : Page) :
    (∀ (α : Type) (rule : Option String) (build : Item → Except Fault α) (isEmpty : α → Bool)
        (items : List Item), page.items rule none = .ok items →
      (∃ h, page.harvest rule build isEmpty = .ok h ∧ Accounts build isEmpty items h)
      ∧ ∀ (build' : Item → Except Fault α) (q : Item → Bool),
        (∀ item ∈ items, q item = true → build' item = build item) →
        (∀ item ∈ items, q item = false → ∃ e, build' item = .error e) →
        ∃ h', page.harvest rule build' isEmpty = .ok h'
          ∧ h'.kept = recordsOf build isEmpty (items.filter q))
    ∧ (∀ (rules : ListRules) (items : List Item), page.items rules.bookList none = .ok items →
      ∃ h, page.books rules = .ok h
        ∧ Accounts (fun item => page.bookEntry rules (some item)) BookEntry.isEmpty items h
        ∧ (∀ b, b ∈ h.kept ↔ ∃ item ∈ items, page.bookEntry rules (some item) = .ok b
          ∧ (b.name ≠ "" ∨ b.author ≠ "" ∨ b.url ≠ "" ∨ b.intro ≠ ""))
        ∧ ∀ item, page.ReadsFields item rules.fieldRules BookEntry.fields
          (page.bookEntry rules (some item)))
    ∧ ∀ (rules : TocRules) (items : List Item), page.items rules.chapterList none = .ok items →
      ∃ h, page.chapters rules = .ok h
        ∧ Accounts (fun item => page.chapter rules (some item)) Chapter.isEmpty items h
        ∧ (∀ c, c ∈ h.kept ↔ ∃ item ∈ items, page.chapter rules (some item) = .ok c
          ∧ (c.name ≠ "" ∨ c.url ≠ ""))
        ∧ ∀ item, page.ReadsFields item rules.fieldRules Chapter.fields
          (page.chapter rules (some item)) := by
  refine ⟨fun α rule build isEmpty items hitems => ⟨harvest_accounts build isEmpty hitems, ?_⟩,
    ?_, ?_⟩
  · intro build' q hothers hfail
    obtain ⟨h', hharvest, haccounts⟩ := harvest_accounts build' isEmpty hitems
    refine ⟨h', hharvest, ?_⟩
    rw [haccounts.kept]
    exact recordsOf_others build isEmpty hothers hfail
  · intro rules items hitems
    obtain ⟨h, hharvest, haccounts⟩ := harvest_accounts
      (fun item => page.bookEntry rules (some item)) BookEntry.isEmpty hitems
    refine ⟨h, hharvest, haccounts, fun b => ?_, bookEntry_reads_fields page rules⟩
    rw [haccounts.kept, mem_recordsOf, BookEntry.isEmpty_eq_false]
  · intro rules items hitems
    obtain ⟨h, hharvest, haccounts⟩ := harvest_accounts
      (fun item => page.chapter rules (some item)) Chapter.isEmpty hitems
    refine ⟨h, hharvest, haccounts, fun c => ?_, chapter_reads_fields page rules⟩
    rw [haccounts.kept, mem_recordsOf, Chapter.isEmpty_eq_false]

def shelf : List Json := [.obj [("name", .str " A ")], .str "x", .obj [("name", .str " ")]]

def shelfPage : Page := .data (listing shelf [])

def shelfRules : TocRules := { chapterList := some "l", chapterName := some "name" }

def failOnText : Item → Except Fault Chapter
  | .value (.str s) => .error (.badValue s)
  | item => shelfPage.chapter shelfRules (some item)

def isObject : Item → Bool
  | .value (.obj _) => true
  | _ => false

/-- The text fails, the book without a name is discarded, and the first book is kept, with the
    text and without it. -/
theorem shelf_accounted_for :
    shelfPage.items (some "l") none = .ok (shelf.map .value)
      ∧ (∃ h, shelfPage.harvest (some "l") failOnText Chapter.isEmpty = .ok h
        ∧ h.kept = [⟨"A", ""⟩] ∧ (1, .badValue "x") ∈ h.failures
        ∧ h.found = 3 ∧ h.failed = 1 ∧ h.discarded = 1)
      ∧ (∃ h, shelfPage.harvest (some "l") failOnText Chapter.isEmpty = .ok h
        ∧ h.kept = recordsOf (fun item => shelfPage.chapter shelfRules (some item)) Chapter.isEmpty
          ((shelf.map .value).filter isObject))
      ∧ ∃ h, shelfPage.chapters shelfRules = .ok h ∧ h.kept = [⟨"A", ""⟩] ∧ h.discarded = 2 := by
  have hitems : shelfPage.items (some "l") none = .ok (shelf.map .value) := by rfl
  obtain ⟨hpass, -, hchapters⟩ := passes_account_for_items shelfPage
  obtain ⟨⟨h, hharvest, haccounts⟩, -⟩ := hpass _ (some "l") failOnText Chapter.isEmpty _ hitems
  obtain ⟨-, hothers⟩ := hpass _ (some "l") (fun item => shelfPage.chapter shelfRules (some item))
    Chapter.isEmpty _ hitems
  obtain ⟨h', hharvest', haccounts', -⟩ := hchapters shelfRules _ hitems
  refine ⟨hitems, ⟨h, hharvest, ?_, ?_, haccounts.found, ?_, ?_⟩, ?_, h', hharvest', ?_, ?_⟩
  · rw [haccounts.kept]
    rfl
  · exact (haccounts.failures 1 _).mpr ⟨.value (.str "x"), rfl, rfl⟩
  · rw [haccounts.failed]
    rfl
  · rw [haccounts.discarded]
    rfl
  · apply hothers failOnText isObject
    · intro item _ hobject
      unfold failOnText
      split
      · cases hobject
      · rfl
    · intro item hitem hobject
      simp only [shelf, List.map_cons, List.map_nil, List.mem_cons, List.not_mem_nil,
        or_false] at hitem
      rcases hitem with rfl | rfl | rfl
      · cases hobject
      · exact ⟨_, rfl⟩
      · cases hobject
  · rw [haccounts'.kept]
    rfl
  · rw [haccounts'.discarded]
    rfl

end Page

end Gleaner
