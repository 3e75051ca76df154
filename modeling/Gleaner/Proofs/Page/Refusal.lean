/-
  Gleaner/Proofs/Page/Refusal.lean
  ================================
  **Rules that fail on a page.**  A rule that finds nothing gives nothing, and so does one that
  cannot be read.  But some rules fail, and these are all (`rule_refusals`): in data, a
  position with more digits than can be read, directly or on a walk along names, and a text
  for a number with too many digits; in a document, a selector that asks for a part of an
  element, has a position with too many digits or an escape that is no character.
-/
import Gleaner.Page.Basic
import Gleaner.Proofs.Fault

namespace Gleaner

/-! ### Data -/

namespace Json

def IsLong (part : List Char) : Prop :=
  part.all Text.asciiDigit = true ∧ Text.maxDigits < part.length

def longFault (part : List Char) : Fault := .badValue (Text.digitLimitText part.length)

/-- A walk along names and positions comes to a list by a position with too many digits. -/
inductive Strands : Json → List (List Char) → Fault → Prop
  | here {items : List Json} {part : List Char} {parts : List (List Char)} (h : IsLong part) :
      Strands (.arr items) (part :: parts) (longFault part)
  | further {v w : Json} {part : List Char} {parts : List (List Char)} {e : Fault}
      (hstep : step v part = .ok (some w)) (h : Strands w parts e) : Strands v (part :: parts) e

/-- A key fails in a value; `taken` are the values that are taken if the key names them
    directly. -/
inductive Refuses (taken : Json → Bool) (v : Json) (key : String) : Fault → Prop
  | position {items : List Json} (hv : v = .arr items) (h : IsLong key.toList) :
      Refuses taken v key (longFault key.toList)
  /-- The key is a path with names beyond ASCII. -/
  | path {found : Option Json} {e : Fault} (hdirect : step v key.toList = .ok found)
      (htaken : ∀ w, found = some w → taken w = false) (hkey : key ≠ "")
      (hpath : Path.parse (pathText key.toList) = .error .foreign)
      (h : Strands v (walkParts key.toList) e) : Refuses taken v key e

def isList : Json → Bool
  | .arr _ => true
  | _ => false

theorem position?_error_iff {size : Nat} {part : List Char} {e : Fault} :
    position? size part = .error e ↔ IsLong part ∧ e = longFault part := by
  unfold position? IsLong
  by_cases hdigits : part.all Text.asciiDigit = true
  · by_cases hlong : Text.maxDigits < part.length
    · have hne : part.isEmpty = false := by
        cases part with
        | nil => exact absurd hlong (by decide)
        | cons c part => rfl
      simp [hne, hdigits, hlong, longFault, eq_comm]
    · cases hempty : part.isEmpty <;> simp [hdigits, hlong]
  · simp [hdigits]

/-- A step fails exactly at a list, by a position with too many digits. -/
theorem step_error_iff {v : Json} {part : List Char} {e : Fault} :
    step v part = .error e ↔ ∃ items, v = .arr items ∧ IsLong part ∧ e = longFault part := by
  cases v with
  | arr items =>
    unfold step
    dsimp only
    cases h : position? items.length part with
    | error e' =>
      obtain ⟨hlong, rfl⟩ := position?_error_iff.mp h
      simp [hlong, eq_comm]
    | ok found =>
      have hshort : ¬ IsLong part := by
        intro hlong
        rw [position?_error_iff.mpr ⟨hlong, rfl⟩] at h
        cases h
      cases found <;> simp [hshort]
  | _ => simp [step]

/-- A walk fails exactly if it strands, by induction on its parts. -/
theorem walk_error_iff {v : Json} {parts : List (List Char)} {e : Fault} :
    walk v parts = .error e ↔ Strands v parts e := by
  constructor
  · intro h
    induction parts generalizing v with
    | nil => cases h
    | cons part parts ih =>
      unfold walk at h
      cases hstep : step v part with
      | error e' =>
        rw [hstep] at h
        cases h
        obtain ⟨items, rfl, hlong, rfl⟩ := step_error_iff.mp hstep
        exact .here hlong
      | ok found =>
        rw [hstep] at h
        cases found with
        | none => cases h
        | some w => exact .further hstep (ih h)
  · intro h
    induction h with
    | here hlong =>
      unfold walk
      rw [step_error_iff.mpr ⟨_, rfl, hlong, rfl⟩]
    | further hstep _ ih =>
      unfold walk
      rw [hstep]
      exact ih

/-- A key fails exactly if it is no path and its names and positions strand. -/
theorem query_error_iff {v : Json} {key : String} {e : Fault} :
    query v key = .error e ↔ key ≠ "" ∧ Path.parse (pathText key.toList) = .error .foreign
      ∧ Strands v (walkParts key.toList) e := by
  unfold query
  by_cases hkey : key = ""
  · simp [hkey]
  · rw [if_neg hkey]
    cases hpath : Path.parse (pathText key.toList) with
    | ok p => simp
    | error problem =>
      cases problem with
      | malformed => simp
      | foreign => simp [hkey, map_eq_error, walk_error_iff]

/-- A direct value that is taken decides; otherwise the path does. -/
theorem refuses_iff {taken : Json → Bool} {v : Json} {key : String} {e : Fault} :
    Refuses taken v key e ↔ step v key.toList = .error e
      ∨ ∃ found, step v key.toList = .ok found ∧ (∀ w, found = some w → taken w = false)
        ∧ query v key = .error e := by
  constructor
  · rintro (⟨hv, hlong⟩ | ⟨hdirect, htaken, hkey, hpath, hstrands⟩)
    · exact .inl (step_error_iff.mpr ⟨_, hv, hlong, rfl⟩)
    · exact .inr ⟨_, hdirect, htaken, query_error_iff.mpr ⟨hkey, hpath, hstrands⟩⟩
  · rintro (h | ⟨found, hdirect, htaken, hquery⟩)
    · obtain ⟨items, hv, hlong, rfl⟩ := step_error_iff.mp h
      exact .position hv hlong
    · obtain ⟨hkey, hpath, hstrands⟩ := query_error_iff.mp hquery
      exact .path hdirect htaken hkey hpath hstrands

theorem selectValue_error_iff {v : Json} {rule : String} {e : Fault} :
    selectValue v rule = .error e ↔ Refuses (fun _ => true) v (Rule.key rule) e := by
  rw [refuses_iff]
  unfold selectValue direct?
  dsimp only
  cases hdirect : step v (Rule.key rule).toList with
  | error e' => simp
  | ok found =>
    cases found with
    | none => simp [map_eq_error]
    | some w => simp

theorem selectList_error_iff {v : Json} {rule : String} {e : Fault} :
    selectList v rule = .error e ↔ Refuses isList v (Rule.key rule) e := by
  rw [refuses_iff]
  unfold selectList direct?
  dsimp only
  cases hdirect : step v (Rule.key rule).toList with
  | error e' => simp
  | ok found =>
    cases found with
    | none => simp [map_eq_error]
    | some w => cases w <;> simp [map_eq_error, isList]

theorem asText_error_iff {v : Json} {e : Fault} :
    v.asText = .error e ↔ v.isShort = false ∧ e = .badValue Text.writingLimitText := by
  unfold asText
  cases v.isShort <;> simp [eq_comm]

end Json

/-! ### Documents -/

/-- The fault of a selector that cannot be read, unless it is taken for one that selects
    nothing. -/
def Selector.Refusal.fault? : Selector.Refusal → Option Fault
  | .malformed => none
  | .pseudoElement index => some (.pseudoElement index)
  | .tooManyDigits digits => some (.badValue (Text.digitLimitText digits))
  | .noCharacter => some (.badValue "chr() arg not in range(0x110000)")

namespace Markup

structure Refuses (rule : Rule) (e : Fault) : Prop where
  steps : rule.steps ≠ []
  css : ∃ refusal, Selector.parse rule.css = .error refusal ∧ refusal.fault? = some e

theorem selectorOf?_error_iff {css : String} {e : Fault} :
    selectorOf? css = .error e ↔ ∃ refusal, Selector.parse css = .error refusal
      ∧ refusal.fault? = some e := by
  unfold selectorOf?
  cases Selector.parse css with
  | ok s => simp
  | error refusal => cases refusal <;> simp [Selector.Refusal.fault?]

theorem selectElements_error_iff {scope : Place} {rule : Rule} {e : Fault} :
    selectElements scope rule = .error e ↔ Refuses rule e := by
  unfold selectElements
  by_cases hsteps : rule.steps = []
  · rw [if_pos (by simpa using hsteps)]
    exact iff_of_false (fun h => nomatch h) fun h => h.steps hsteps
  · rw [if_neg (by simpa using hsteps), map_eq_error, selectorOf?_error_iff]
    exact ⟨fun h => ⟨hsteps, h⟩, fun h => h.css⟩

theorem selectText_error_iff {scope : Place} {rule : Rule} {e : Fault} :
    selectText scope rule = .error e ↔ Refuses rule e := by
  unfold selectText firstNode?
  rw [map_eq_error]
  by_cases hsteps : rule.steps = []
  · rw [if_pos (by simpa using hsteps)]
    exact iff_of_false (fun h => nomatch h) fun h => h.steps hsteps
  · rw [if_neg (by simpa using hsteps), map_eq_error, selectElements_error_iff]

end Markup

/-! ### Pages -/

namespace Page

/-- What a rule can be put to: the whole page, or an item that a rule has selected in it. -/
inductive Offers (page : Page) : Option Item → Prop
  | whole : Offers page none
  | item {context : Option Item} {rule : Option String} {found : List Item} {item : Item}
      (hcontext : Offers page context) (hfound : page.items rule context = .ok found)
      (h : item ∈ found) :
      Offers page (some item)

inductive RefusesItems (page : Page) (rule : Option String) (context : Option Item) : Fault → Prop
  | data {root : Json} {e : Fault} (hpage : page = .data root) (hrule : trimmed rule ≠ "")
      (h : Json.Refuses Json.isList (valueIn root context) (Rule.key (trimmed rule)) e) :
      RefusesItems page rule context e
  | document {root : Markup.Place} {e : Fault} (hpage : page = .document root)
      (hrule : Text.allBlank (trimmed rule) = false)
      (h : Markup.Refuses (Rule.compile (some (trimmed rule))) e) : RefusesItems page rule context e

inductive RefusesText (page : Page) (rule : Option String) (context : Option Item) : Fault → Prop
  | data {root : Json} {e : Fault} (hpage : page = .data root) (hrule : trimmed rule ≠ "")
      (h : Json.Refuses (fun _ => true) (valueIn root context) (Rule.key (trimmed rule)) e) :
      RefusesText page rule context e
  /-- What is selected holds a number with too many digits to write. -/
  | unwritable {root v : Json} (hpage : page = .data root) (hrule : trimmed rule ≠ "")
      (hv : Json.selectValue (valueIn root context) (trimmed rule) = .ok (some v))
      (h : v.isShort = false) :
      RefusesText page rule context (.badValue Text.writingLimitText)
  | document {root : Markup.Place} {e : Fault} (hpage : page = .document root)
      (hrule : Text.allBlank (trimmed rule) = false)
      (h : Markup.Refuses (Rule.compile (some (trimmed rule))) e) : RefusesText page rule context e

/-- A document offers elements alone, in which rules for documents can be followed. -/
theorem Offers.scope {root : Markup.Place} {context : Option Item}
    (h : Offers (.document root) context) :
    ∃ scope, scopeIn root context = .ok scope := by
  cases h with
  | whole => exact ⟨root, rfl⟩
  | item hcontext hfound hmem =>
    unfold items select at hfound
    dsimp only at hfound
    split at hfound
    · cases hfound
      cases hmem
    · split at hfound
      · cases hfound
      · obtain ⟨places, -, rfl⟩ := map_eq_ok.mp hfound
        obtain ⟨p, -, rfl⟩ := List.mem_map.mp hmem
        exact ⟨p, rfl⟩

section Rules

variable {page : Page} {rule : Option String} {context : Option Item} {e : Fault}

theorem data_items_error {root : Json} :
    (data root).items rule context = .error e ↔ trimmed rule ≠ ""
    ∧ Json.Refuses Json.isList (valueIn root context) (Rule.key (trimmed rule)) e := by
  unfold items select
  dsimp only
  by_cases hrule : trimmed rule = ""
  · rw [if_pos hrule]
    refine iff_of_false ?_ fun h => h.1 hrule
    intro h
    split at h <;> cases h
  · rw [if_neg hrule, map_eq_error, Json.selectList_error_iff]
    exact (and_iff_right hrule).symm

theorem data_text_error {root : Json} : (data root).text rule context = .error e ↔ trimmed rule ≠ ""
    ∧ (Json.Refuses (fun _ => true) (valueIn root context) (Rule.key (trimmed rule)) e
      ∨ ∃ v, Json.selectValue (valueIn root context) (trimmed rule) = .ok (some v)
        ∧ v.isShort = false ∧ e = .badValue Text.writingLimitText) := by
  unfold text read?
  dsimp only
  by_cases hrule : trimmed rule = ""
  · rw [if_pos hrule]
    exact iff_of_false (fun h => nomatch h) fun h => h.1 hrule
  · rw [if_neg hrule, and_iff_right hrule, ← Json.selectValue_error_iff]
    cases Json.selectValue (valueIn root context) (trimmed rule) with
    | error e' => simp [Except.bind]
    | ok found =>
      -- what was selected is to be written, and nothing is written like null
      change (found.getD .null).asText = .error e ↔ _
      rw [Json.asText_error_iff]
      cases found with
      | none => simp [Json.isShort]
      | some v => simp

variable {root : Markup.Place}

/-- A rule for documents fails exactly if its selector does, wherever it is put. -/
theorem document_items_error (hcontext : Offers (.document root) context) :
    (document root).items rule context = .error e ↔ Text.allBlank (trimmed rule) = false
      ∧ Markup.Refuses (Rule.compile (some (trimmed rule))) e := by
  obtain ⟨scope, hscope⟩ := hcontext.scope
  unfold items select
  dsimp only
  by_cases hrule : Text.allBlank (trimmed rule) = true
  · rw [if_pos hrule, hrule]
    exact iff_of_false (fun h => nomatch h) fun h => nomatch h.1
  · rw [if_neg hrule, hscope]
    dsimp only
    rw [map_eq_error, Markup.selectElements_error_iff]
    exact (and_iff_right (Bool.eq_false_iff.mpr hrule)).symm

theorem document_text_error (hcontext : Offers (.document root) context) :
    (document root).text rule context = .error e ↔ Text.allBlank (trimmed rule) = false
      ∧ Markup.Refuses (Rule.compile (some (trimmed rule))) e := by
  obtain ⟨scope, hscope⟩ := hcontext.scope
  unfold text read?
  dsimp only
  by_cases hrule : Text.allBlank (trimmed rule) = true
  · rw [if_pos hrule, hrule]
    exact iff_of_false (fun h => nomatch h) fun h => nomatch h.1
  · rw [if_neg hrule, hscope]
    dsimp only
    rw [Markup.selectText_error_iff]
    exact (and_iff_right (Bool.eq_false_iff.mpr hrule)).symm

/-- A rule that selects items fails in the ways that are listed, and in no other. -/
theorem items_error_iff (hcontext : page.Offers context) :
    page.items rule context = .error e ↔ page.RefusesItems rule context e := by
  cases page with
  | data root =>
    rw [data_items_error]
    constructor
    · rintro ⟨hrule, h⟩
      exact .data rfl hrule h
    · rintro (⟨⟨⟩, hrule, h⟩ | ⟨⟨⟩, -, -⟩)
      exact ⟨hrule, h⟩
  | document root =>
    rw [document_items_error hcontext]
    constructor
    · rintro ⟨hrule, h⟩
      exact .document rfl hrule h
    · rintro (⟨⟨⟩, -, -⟩ | ⟨⟨⟩, hrule, h⟩)
      exact ⟨hrule, h⟩

/-- A rule that selects a text fails in the ways that are listed, and in no other. -/
theorem text_error_iff (hcontext : page.Offers context) :
    page.text rule context = .error e ↔ page.RefusesText rule context e := by
  cases page with
  | data root =>
    rw [data_text_error]
    constructor
    · rintro ⟨hrule, h | ⟨v, hv, hlong, rfl⟩⟩
      · exact .data rfl hrule h
      · exact .unwritable rfl hrule hv hlong
    · rintro (⟨⟨⟩, hrule, h⟩ | ⟨⟨⟩, hrule, hv, hlong⟩ | ⟨⟨⟩, -, -⟩)
      · exact ⟨hrule, .inl h⟩
      · exact ⟨hrule, .inr ⟨_, hv, hlong, rfl⟩⟩
  | document root =>
    rw [document_text_error hcontext]
    constructor
    · rintro ⟨hrule, h⟩
      exact .document rfl hrule h
    · rintro (⟨⟨⟩, -, -⟩ | ⟨⟨⟩, -, -, -⟩ | ⟨⟨⟩, hrule, h⟩)
      exact ⟨hrule, h⟩

end Rules

/-- Nothing on the page answers to a rule, or the rule cannot be read. -/
inductive IsBarren (page : Page) (rule : Option String) (context : Option Item) : Prop
  | noValue {root : Json} {p : Json.Path} (hpage : page = .data root) (hrule : trimmed rule ≠ "")
      (hdirect : Json.step (valueIn root context) (Rule.key (trimmed rule)).toList = .ok none)
      (hpath : Json.Path.parse (Json.pathText (Rule.key (trimmed rule)).toList) = .ok p)
      (h : p.values (valueIn root context) = [])
  | malformedPath {root : Json} (hpage : page = .data root) (hrule : trimmed rule ≠ "")
      (hdirect : Json.step (valueIn root context) (Rule.key (trimmed rule)).toList = .ok none)
      (hpath : Json.Path.parse (Json.pathText (Rule.key (trimmed rule)).toList) = .error .malformed)
  | noElement {root scope : Markup.Place} {s : Selector} (hpage : page = .document root)
      (hscope : scopeIn root context = .ok scope)
      (hsteps : (Rule.compile (some (trimmed rule))).steps ≠ [])
      (hcss : Selector.parse (Rule.compile (some (trimmed rule))).css = .ok s)
      (h : s.select scope = [])
  | malformedSelector {root : Markup.Place} (hpage : page = .document root)
      (hsteps : (Rule.compile (some (trimmed rule))).steps ≠ [])
      (hcss : Selector.parse (Rule.compile (some (trimmed rule))).css = .error .malformed)

section Nothing

variable {rule : Option String} {context : Option Item}

theorem data_selects_nothing {root : Json} (hrule : trimmed rule ≠ "")
    (hdirect : Json.step (valueIn root context) (Rule.key (trimmed rule)).toList = .ok none)
    (hquery : Json.query (valueIn root context) (Rule.key (trimmed rule)) = .ok []) :
    (data root).items rule context = .ok [] ∧ (data root).text rule context = .ok "" := by
  unfold items select text read? Json.selectList Json.selectValue Json.direct?
  dsimp only
  rw [if_neg hrule, if_neg hrule, hdirect, hquery]
  exact ⟨rfl, rfl⟩

theorem document_selects_nothing {root scope : Markup.Place}
    (hscope : scopeIn root context = .ok scope)
    (hsteps : (Rule.compile (some (trimmed rule))).steps ≠ [])
    (hnone : Markup.selectElements scope (Rule.compile (some (trimmed rule))) = .ok []) :
    (document root).items rule context = .ok [] ∧ (document root).text rule context = .ok "" := by
  unfold items select text read?
  dsimp only
  by_cases hblank : Text.allBlank (trimmed rule) = true
  · rw [if_pos hblank, if_pos hblank]
    exact ⟨rfl, rfl⟩
  · rw [if_neg hblank, if_neg hblank, hscope]
    dsimp only
    rw [Markup.selectText, Markup.firstNode?, if_neg (by simpa using hsteps), hnone]
    exact ⟨rfl, rfl⟩

/-- What nothing answers to selects nothing, and its text is empty. -/
theorem IsBarren.selects_nothing {page : Page} (hcontext : page.Offers context)
    (h : page.IsBarren rule context) :
    page.items rule context = .ok [] ∧ page.text rule context = .ok "" := by
  cases h with
  | noValue hpage hrule hdirect hpath h =>
    subst hpage
    refine data_selects_nothing hrule hdirect ?_
    unfold Json.query
    rw [hpath]
    dsimp only
    rw [h]
    split <;> rfl
  | malformedPath hpage hrule hdirect hpath =>
    subst hpage
    refine data_selects_nothing hrule hdirect ?_
    unfold Json.query
    rw [hpath]
    split <;> rfl
  | noElement hpage hscope hsteps hcss h =>
    subst hpage
    refine document_selects_nothing hscope hsteps ?_
    unfold Markup.selectElements Markup.selectorOf?
    rw [if_neg (by simpa using hsteps), hcss]
    exact congrArg Except.ok h
  | malformedSelector hpage hsteps hcss =>
    subst hpage
    obtain ⟨scope, hscope⟩ := hcontext.scope
    refine document_selects_nothing hscope hsteps ?_
    unfold Markup.selectElements Markup.selectorOf?
    rw [if_neg (by simpa using hsteps), hcss]
    rfl

end Nothing

/-- Put to the whole page or to an item that was selected in it, a rule fails exactly for the
    reasons listed; where nothing answers to it or it cannot be read, it selects no items and
    the empty text. -/
theorem rule_refusals (page : Page) (rule : Option String) (context : Option Item)
    (hcontext : page.Offers context) :
    (∀ e, page.items rule context = .error e ↔ page.RefusesItems rule context e)
      ∧ (∀ e, page.text rule context = .error e ↔ page.RefusesText rule context e)
      ∧ (page.IsBarren rule context →
        page.items rule context = .ok [] ∧ page.text rule context = .ok "") :=
  ⟨fun _ => items_error_iff hcontext, fun _ => text_error_iff hcontext,
    fun h => h.selects_nothing hcontext⟩

/-- A list of one item, and a rule for it that is no path. -/
theorem item_takes_malformed_rule :
    (data (.arr [.obj []])).Offers (some (.value (.obj [])))
      ∧ (data (.arr [.obj []])).items (some "a[") (some (.value (.obj []))) = .ok []
      ∧ (data (.arr [.obj []])).text (some "a[") (some (.value (.obj []))) = .ok "" := by
  have hfound : (data (.arr [.obj []])).items none none = .ok [.value (.obj [])] := rfl
  have hoffers : (data (.arr [.obj []])).Offers (some (.value (.obj []))) :=
    .item .whole hfound List.mem_cons_self
  obtain ⟨-, -, hnothing⟩ :=
    rule_refusals (data (.arr [.obj []])) (some "a[") (some (.value (.obj []))) hoffers
  exact ⟨hoffers,
    hnothing (.malformedPath rfl (by decide) rfl (eq_error_of_decide (by decide +kernel)))⟩

/-- On a page with one element, a rule for a part of it fails. -/
theorem pseudo_element_refused : ∃ page, Page.read (.text "<p>x</p>") = .ok page
    ∧ page.items (some "p::before") none = .error (.pseudoElement 1)
    ∧ page.text (some "p::before") none = .error (.pseudoElement 1) := by
  have hfault : Selector.parse (Rule.compile (some (trimmed (some "p::before")))).css
      = .error (.pseudoElement 1) := eq_error_of_decide (by decide +kernel)
  have hrefuses :
      Markup.Refuses (Rule.compile (some (trimmed (some "p::before")))) (.pseudoElement 1) :=
    ⟨by decide +kernel, _, hfault, rfl⟩
  obtain ⟨page, hpage, hdocument⟩ :=
    exists_ok_of_any (x := Page.read (.text "<p>x</p>")) (p := (!·.isData)) (by decide +kernel)
  cases page with
  | data root => cases hdocument
  | document root =>
    refine ⟨_, hpage, ?_, ?_⟩
    · exact (items_error_iff .whole).mpr (.document rfl (by decide) hrefuses)
    · exact (text_error_iff .whole).mpr (.document rfl (by decide) hrefuses)

end Page

end Gleaner
