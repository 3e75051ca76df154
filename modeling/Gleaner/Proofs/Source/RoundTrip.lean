/-
  Gleaner/Proofs/Source/RoundTrip.lean
  ====================================
  **Sources are kept by writing and reading.**  A source is written as an object whose
  members are its fields.  A source that was read has a name and no overlong numbers
  (`Kept`), and what it is written as is read as the same source.  The same goes for each
  rule group, and for the sources of a file, whatever stands between them.
-/
import Gleaner.Source.Basic
import Gleaner.Proofs.Json.Printed
import Gleaner.Proofs.Json.Read

namespace Gleaner

open Json (Members ShortMembers)
open Text (ShortInt)

variable {key other : String} {v : Json} {ms : Members}

theorem Json.find?_here : Json.find? key ((key, v) :: ms) = some v := if_pos rfl

theorem Json.find?_there (h : other ≠ key) :
    Json.find? key ((other, v) :: ms) = Json.find? key ms := if_neg h

/-! ### Members read back -/

namespace RuleField

theorem read_there (h : other ≠ key) : read ((other, v) :: ms) key = read ms key := by
  rw [read, Json.find?_there h, ← read]

@[simp] theorem read_str (s : String) : read ((key, .str s) :: ms) key = some s := by
  rw [read, Json.find?_here]

/-- A rule that is written is read again. -/
@[simp] theorem read_write (rule : Option String) : read ((key, write rule) :: ms) key = rule := by
  rw [read, Json.find?_here]
  cases rule <;> rfl

theorem plain_write (points : Bool) (rule : Option String) :
    (write rule).isPlain points = true := by
  cases rule <;> rfl

end RuleField

/-! ### Rule groups -/

open RuleField (read_there)

theorem ListRules.ofMembers_members (g : ListRules) : ofMembers g.members = g := by
  simp [ofMembers, members, RuleField.members, fields, read_there]

theorem SearchRules.ofMembers_members (g : SearchRules) : ofMembers g.members = g := by
  simp [ofMembers, members, RuleField.members, fields, ListRules.ofMembers,
    ListRules.fields, read_there]

theorem DetailRules.ofMembers_members (g : DetailRules) : ofMembers g.members = g := by
  simp [ofMembers, members, RuleField.members, fields, read_there]

theorem TocRules.ofMembers_members (g : TocRules) : ofMembers g.members = g := by
  simp [ofMembers, members, RuleField.members, fields, read_there]

theorem ContentRules.ofMembers_members (g : ContentRules) : ofMembers g.members = g := by
  simp [ofMembers, members, RuleField.members, fields, read_there]

/-- A rule group is written as an object of rules, each under its own name. -/
theorem RuleField.plain_members {α : Type} {fields : List (RuleField α)}
    (hkeys : (fields.map (·.key)).Nodup) (points : Bool) (g : α) :
    (Json.obj (members fields g)).isPlain points = true := by
  have hnames : (members fields g).map (·.1) = fields.map (·.key) := by simp [members]
  rw [Json.isPlain, hnames, decide_eq_true hkeys, Bool.true_and]
  clear hkeys hnames
  induction fields with
  | nil => rfl
  | cons f fields ih =>
      rw [members, List.map_cons, Json.arePlainMembers, plain_write, Bool.true_and, ← members, ih]

/-! ### One source -/

namespace Source

section
variable {α : Type} (write : α → Members) {ofMembers : Members → α}

theorem readInt_there {otherwise : Int} (h : other ≠ key) :
    readInt ((other, v) :: ms) key otherwise = readInt ms key otherwise := by
  rw [readInt, Json.find?_there h, ← readInt]

theorem readInt_int (n otherwise : Int) : readInt ((key, .int n) :: ms) key otherwise = n := by
  rw [readInt, Json.find?_here]

theorem readBool?_there (h : other ≠ key) :
    readBool? ((other, v) :: ms) key = readBool? ms key := by
  rw [readBool?, Json.find?_there h, ← readBool?]

theorem readBool?_bool (b : Bool) : readBool? ((key, .bool b) :: ms) key = some b := by
  rw [readBool?, Json.find?_here]

theorem readBool?_option (b : Option Bool) :
    readBool? ((key, (b.map Json.bool).getD .null) :: ms) key = b := by
  rw [readBool?, Json.find?_here]
  cases b <;> rfl

theorem readGroup?_there (h : other ≠ key) :
    readGroup? ofMembers ((other, v) :: ms) key = readGroup? ofMembers ms key := by
  rw [readGroup?, Json.find?_there h, ← readGroup?]

theorem readGroup?_group (h : ∀ g, ofMembers (write g) = g) (g : Option α) :
    readGroup? ofMembers ((key, groupOrNull write g) :: ms) key = g := by
  rw [readGroup?, Json.find?_here]
  cases g with
  | none => rfl
  | some g => exact congrArg some (h g)

theorem plain_group {points : Bool} (h : ∀ g, (Json.obj (write g)).isPlain points = true)
    (g : Option α) : (groupOrNull write g).isPlain points = true := by
  cases g with
  | none => rfl
  | some g => exact h g

end

theorem readName_there (h : other ≠ key) : readName ((other, v) :: ms) key = readName ms key := by
  rw [readName, read_there h, ← readName]

theorem readName_str {s : String} (h : s ≠ "") : readName ((key, .str s) :: ms) key = s := by
  rw [readName, RuleField.read_str]
  split
  · next e => exact absurd (Option.some.inj e) h
  · next e => exact (Option.some.inj e).symm
  · next e => cases e

theorem readName_ne (ms : Members) (key : String) : readName ms key ≠ "" := by
  unfold readName
  split
  · decide
  · next h _ => exact fun e => h (by rw [e])
  · decide

/-- What a source keeps of having been read: it has a name, and its numbers are such as
    can be read. -/
structure Kept (s : Source) : Prop where
  named : s.name ≠ ""
  kind : ShortInt s.kind
  customOrder : ShortInt s.customOrder
  lastUpdateTime : ShortInt s.lastUpdateTime
  respondTime : ShortInt s.respondTime
  weight : ShortInt s.weight

/-- A number that is read from short members is short, if its default is. -/
theorem readInt_short (h : ShortMembers ms) {otherwise : Int} (hotherwise : ShortInt otherwise) :
    ShortInt (readInt ms key otherwise) := by
  unfold readInt
  split
  · next n hfound => exact h key n hfound
  · next s hfound =>
    cases hparse : Text.parseInt? (Text.trim s) with
    | none => exact hotherwise
    | some n => exact Text.parseInt?_short hparse
  · exact hotherwise

theorem kept_ofMembers (h : ShortMembers ms) : (ofMembers ms).Kept where
  named := readName_ne ms _
  kind := readInt_short h (by decide)
  customOrder := readInt_short h (by decide)
  lastUpdateTime := readInt_short h (by decide)
  respondTime := readInt_short h (by decide)
  weight := readInt_short h (by decide)

/-- The source is what the members that it is written as describe. -/
theorem ofMembers_members {s : Source} (h : s.name ≠ "") : ofMembers s.members = s := by
  simp [ofMembers, members, textOrNull, read_there, readInt_there, readBool?_there,
    readGroup?_there, readName_there, readInt_int, readBool?_bool, readBool?_option, readName_str h,
    readGroup?_group _ SearchRules.ofMembers_members,
    readGroup?_group _ ListRules.ofMembers_members,
    readGroup?_group _ DetailRules.ofMembers_members, readGroup?_group _ TocRules.ofMembers_members,
    readGroup?_group _ ContentRules.ofMembers_members]

/-- The value that describes a source is plain: its numbers can be written and read again.
    -/
theorem Kept.plain {s : Source} (h : s.Kept) (points : Bool) : s.toJson.isPlain points = true := by
  have hlist := plain_group ListRules.members fun g =>
    RuleField.plain_members (by simp [ListRules.fields]) points g
  have hsearch := plain_group SearchRules.members fun g =>
    RuleField.plain_members (by simp [SearchRules.fields, ListRules.fields]) points g
  have hdetail := plain_group DetailRules.members fun g =>
    RuleField.plain_members (by simp [DetailRules.fields]) points g
  have htoc := plain_group TocRules.members fun g =>
    RuleField.plain_members (by simp [TocRules.fields]) points g
  have hcontent := plain_group ContentRules.members fun g =>
    RuleField.plain_members (by simp [ContentRules.fields]) points g
  have hcookie : ((s.enabledCookieJar.map Json.bool).getD .null).isPlain points = true := by
    cases s.enabledCookieJar <;> rfl
  have hnames : (s.members.map (·.1)).Nodup := by simp [members]
  rw [toJson, Json.isPlain, decide_eq_true hnames, Bool.true_and]
  simp [members, Json.arePlainMembers, Json.isPlain, textOrNull, RuleField.plain_write, hlist,
    hsearch, hdetail, htoc, hcontent, hcookie, h.kind, h.customOrder, h.lastUpdateTime,
    h.respondTime, h.weight]

theorem parseJson_eq_ok {text : String} :
    parseJson text = .ok v ↔ Json.parse text.toList = .ok v := by
  unfold parseJson
  split
  · next w hread => rw [hread, Except.ok.injEq, Except.ok.injEq]
  · next f hread =>
    rw [hread]
    split <;> exact ⟨fun h => (by cases h), fun h => (by cases h)⟩

theorem parse_object {text : String} (h : parseJson text = .ok (.obj ms)) :
    parse text = .ok (ofMembers ms) := by
  rw [parse, h]
  rfl

/-- A source that was read keeps what it needs to be written and read again. -/
theorem Kept.of_parse {text : String} {s : Source} (h : parse text = .ok s) : s.Kept := by
  cases hread : parseJson text with
  | error f =>
    rw [parse, hread] at h
    cases h
  | ok v =>
    cases v with
    | obj ms =>
      obtain rfl := Except.ok.inj ((parse_object hread).symm.trans h)
      exact kept_ofMembers (Json.parse_members_short (parseJson_eq_ok.mp hread))
    | null | bool | int | real | str | arr =>
      rw [parse, hread] at h
      cases h

theorem Kept.parseJson_text {s : Source} (h : s.Kept) :
    parseJson s.text = .ok (.obj s.members) := by
  have hplain := h.plain false
  have hread := Json.parse_indented hplain
  rw [Json.reread_plain _ hplain] at hread
  exact parseJson_eq_ok.mpr hread

theorem Kept.parse_text {s : Source} (h : s.Kept) : parse s.text = .ok s := by
  rw [parse_object h.parseJson_text, ofMembers_members h.named]

/-! ### The sources of a file -/

def describesSource : Json → Bool
  | .obj _ => true
  | _ => false

/-- Only the objects of a list are sources, and they are read in their order. -/
theorem ofItems_written {items : List Json} {sources : List Source} (hkept : ∀ s ∈ sources, s.Kept)
    (hitems : items.filter describesSource = sources.map toJson) : ofItems items = sources := by
  induction items generalizing sources with
  | nil =>
    obtain rfl : sources = [] := by simpa using hitems.symm
    rfl
  | cons v items ih =>
    cases v with
    | obj ms =>
      rw [List.filter_cons_of_pos rfl] at hitems
      obtain ⟨s, more, rfl, hfirst, hmore⟩ := List.map_eq_cons_iff.mp hitems.symm
      obtain rfl : s.members = ms := Json.obj.inj hfirst
      rw [ofItems, ofMembers_members (hkept s List.mem_cons_self).named,
        ih (fun s hs => hkept s (List.mem_cons_of_mem _ hs)) hmore.symm]
    | null | bool | int | real | str | arr =>
      rw [List.filter_cons_of_neg (by simp [describesSource])] at hitems
      exact ih hkept hitems

theorem parseFile_items {text : String} {items : List Json}
    (h : parseJson text = .ok (.arr items)) :
    parseFile text = .ok (ofItems items) := by
  rw [parseFile, h]
  rfl

/-- The values between the sources may change in being written and read again, but the
    sources do not. -/
theorem ofItems_reread {items : List Json} {sources : List Source} (hkept : ∀ s ∈ sources, s.Kept)
    (hitems : items.filter describesSource = sources.map toJson) :
    ofItems (Json.rereadItems items) = sources := by
  have hsame : describesSource ∘ Json.reread = describesSource := by
    funext v
    cases v <;> rfl
  refine ofItems_written hkept ?_
  calc (Json.rereadItems items).filter describesSource
      = (items.filter describesSource).map Json.reread := by
        rw [Json.rereadItems_eq_map, List.filter_map, hsame]
    _ = sources.map (Json.reread ∘ toJson) := by rw [hitems, List.map_map]
    _ = sources.map toJson :=
      List.map_congr_left fun s hs => Json.reread_plain _ ((hkept s hs).plain false)

theorem plain_items {items : List Json} {sources : List Source} (hkept : ∀ s ∈ sources, s.Kept)
    (hitems : items.filter describesSource = sources.map toJson)
    (hothers : ∀ v ∈ items, describesSource v = false → v.isPlain true = true) :
    (Json.arr items).isPlain true = true := by
  rw [Json.isPlain, Json.arePlain_iff]
  intro v hv
  cases hsource : describesSource v with
  | false => exact hothers v hv hsource
  | true =>
    have hmem : v ∈ items.filter describesSource := List.mem_filter.mpr ⟨hv, hsource⟩
    obtain ⟨s, hs, rfl⟩ := List.mem_map.mp (hitems ▸ hmem)
    exact (hkept s hs).plain true

/-- Sources are read back from what they are written as: one source from its text, each
    rule group from its object, and the sources of an array from any text of the array,
    whatever other values it has between them. -/
theorem written_is_read_back :
    (∀ text ms, parseJson text = .ok (.obj ms) → ∃ s, parse text = .ok s ∧ parse s.text = .ok s) ∧
    (∀ s : Source, s.Kept → parse s.text = .ok s) ∧
    (∀ g, SearchRules.ofMembers (SearchRules.members g) = g) ∧
    (∀ g, ListRules.ofMembers (ListRules.members g) = g) ∧
    (∀ g, DetailRules.ofMembers (DetailRules.members g) = g) ∧
    (∀ g, TocRules.ofMembers (TocRules.members g) = g) ∧
    (∀ g, ContentRules.ofMembers (ContentRules.members g) = g) ∧
    (∀ (sources : List Source) (items : List Json), (∀ s ∈ sources, ∃ text, parse text = .ok s) →
      items.filter describesSource = sources.map toJson →
        (∀ text, parseJson text = .ok (.arr items) → parseFile text = .ok sources) ∧
        ((∀ v ∈ items, describesSource v = false → v.isPlain true = true) →
          parseFile (Json.arr items).compact = .ok sources
            ∧ parseFile (Json.arr items).spaced = .ok sources ∧
          parseFile (Json.arr items).indented = .ok sources)) := by
  refine ⟨?_, fun _ => Kept.parse_text, SearchRules.ofMembers_members, ListRules.ofMembers_members,
    DetailRules.ofMembers_members, TocRules.ofMembers_members, ContentRules.ofMembers_members, ?_⟩
  · intro text ms h
    have hparse := parse_object h
    exact ⟨ofMembers ms, hparse, (Kept.of_parse hparse).parse_text⟩
  · intro sources items hread hitems
    have hkept : ∀ s ∈ sources, s.Kept := by
      intro s hs
      obtain ⟨text, htext⟩ := hread s hs
      exact .of_parse htext
    have hfile : ∀ text items', parseJson text = .ok (.arr items') → ofItems items' = sources →
        parseFile text = .ok sources := by
      rintro text items' htext rfl
      exact parseFile_items htext
    refine ⟨fun text htext => hfile text items htext (ofItems_written hkept hitems),
      fun hothers => ?_⟩
    have hplain := plain_items hkept hitems hothers
    have hreread := ofItems_reread hkept hitems
    exact ⟨hfile _ _ (parseJson_eq_ok.mpr (Json.parse_compact hplain)) hreread,
      hfile _ _ (parseJson_eq_ok.mpr (Json.parse_spaced hplain)) hreread,
      hfile _ _ (parseJson_eq_ok.mpr (Json.parse_indented hplain)) hreread⟩

def library : Source where
  url := "https://books.example"
  group := some "open"
  searchRules := some { bookList := some "class.book" }

/-- It is read from its own text, and from a list that has other values before and after it. -/
theorem library_is_found_again :
    (∃ s, parse library.text = .ok s ∧ parse s.text = .ok s) ∧ parse library.text = .ok library ∧
    parseFile (Json.arr [.bool true, library.toJson, .real (.ofDecimal false 15 (-1)),
      .str "end"]).indented = .ok [library] := by
  have hkept : library.Kept := ⟨by decide, by decide, by decide, by decide, by decide, by decide⟩
  obtain ⟨hone, hagain, -, -, -, -, -, hfile⟩ := written_is_read_back
  refine ⟨hone library.text library.members hkept.parseJson_text, hagain library hkept, ?_⟩
  have hread : ∀ s ∈ [library], ∃ text, parse text = .ok s := by
    simpa using ⟨library.text, hkept.parse_text⟩
  refine ((hfile [library] _ hread rfl).2 ?_).2.2
  simp [describesSource, toJson, Json.isPlain]

end Source

end Gleaner
