/-
  Gleaner/Proofs/Source/Lenient.lean
  ==================================
  **What a source is without its members.**  Every field of a source but its address is
  declared with a default.  A field is what its own member gives, where the field accepts the
  value of this member, whatever other members there are (`Field.Reads`).  In every other case
  it is its default, save one field: whether cookies are kept is declared to be so and is read
  as unknown (`default_iff`).
-/
import Gleaner.Source.Basic

namespace Gleaner.Source

open Json (Members find?)

def declared : Source := { url := "" }

/-! ### Fields -/

/-- A field with a default: the name of its member, what it takes from a value, or nothing
    from a value that it does not accept, and the field itself. -/
structure Field where
  {Value : Type}
  key : String
  take : Json → Option Value
  get : Source → Value

namespace Field

def text (key : String) (get : Source → Option String) : Field where
  key := key
  take
    | .str s => some (some s)
    | _ => none
  get := get

/-- A name, which is not empty. -/
def name (key : String) (get : Source → String) : Field where
  key := key
  take
    | .str s => if s = "" then none else some s
    | _ => none
  get := get

/-- A whole number, which may be given as a text. -/
def whole (key : String) (get : Source → Int) : Field where
  key := key
  take
    | .int n => some n
    | .str s => Text.parseInt? (Text.trim s)
    | _ => none
  get := get

def truth (key : String) (get : Source → Bool) : Field where
  key := key
  take
    | .bool b => some b
    | _ => none
  get := get

/-- A truth value that may be unknown. -/
def answer (key : String) (get : Source → Option Bool) : Field where
  key := key
  take
    | .bool b => some (some b)
    | _ => none
  get := get

def group {α : Type} (ofMembers : Members → α) (key : String) (get : Source → Option α) :
    Field where
  key := key
  take
    | .obj g => some (some (ofMembers g))
    | _ => none
  get := get

/-- The field is what it takes from its own member, or `otherwise`, whatever other members
    there are. -/
def Reads (f : Field) (otherwise : f.Value) : Prop :=
  ∀ ms, f.get (ofMembers ms) = ((find? f.key ms).bind f.take).getD otherwise

section
variable {key : String}

theorem reads_text {get : Source → Option String}
    (hget : ∀ ms, get (ofMembers ms) = RuleField.read ms key) : (text key get).Reads none := by
  intro ms
  simp only [text, hget, RuleField.read]
  cases find? key ms with
  | none => rfl
  | some v => cases v <;> simp

theorem reads_name {get : Source → String} (hget : ∀ ms, get (ofMembers ms) = readName ms key) :
    (name key get).Reads unnamed := by
  intro ms
  simp only [name, hget, readName, RuleField.read]
  cases find? key ms with
  | none => rfl
  | some v =>
    cases v with
    | str s => by_cases hs : s = "" <;> simp [hs]
    | _ => rfl

/-- A whole number is the default unless its own member holds one; likewise for the other
    kinds of fields. -/
theorem reads_whole {get : Source → Int} {n : Int}
    (hget : ∀ ms, get (ofMembers ms) = readInt ms key n) : (whole key get).Reads n := by
  intro ms
  simp only [whole, hget, readInt]
  cases find? key ms with
  | none => rfl
  | some v => cases v <;> simp

theorem reads_truth {get : Source → Bool} {b : Bool}
    (hget : ∀ ms, get (ofMembers ms) = (readBool? ms key).getD b) : (truth key get).Reads b := by
  intro ms
  simp only [truth, hget, readBool?]
  cases find? key ms with
  | none => rfl
  | some v => cases v <;> simp

theorem reads_answer {get : Source → Option Bool}
    (hget : ∀ ms, get (ofMembers ms) = readBool? ms key) : (answer key get).Reads none := by
  intro ms
  simp only [answer, hget, readBool?]
  cases find? key ms with
  | none => rfl
  | some v => cases v <;> simp

theorem reads_group {α : Type} {ofMembers : Members → α} {get : Source → Option α}
    (hget : ∀ ms, get (Source.ofMembers ms) = readGroup? ofMembers ms key) :
    (group ofMembers key get).Reads none := by
  intro ms
  simp only [group, hget, readGroup?]
  cases find? key ms with
  | none => rfl
  | some v => cases v <;> simp

end

end Field

def cookieJar : Field := .answer "enabledCookieJar" (·.enabledCookieJar)

/-- The fields with a default, in the order in which they are written. -/
def fields : List Field :=
  [.name "bookSourceName" (·.name),
   .text "bookSourceGroup" (·.group),
   .whole "bookSourceType" (·.kind),
   .text "bookUrlPattern" (·.bookUrlPattern),
   .whole "customOrder" (·.customOrder),
   .truth "enabled" (·.enabled),
   .truth "enabledExplore" (·.enabledExplore),
   .text "bookSourceComment" (·.comment),
   .text "jsLib" (·.jsLib),
   cookieJar,
   .text "concurrentRate" (·.concurrentRate),
   .text "header" (·.header),
   .text "loginUrl" (·.loginUrl),
   .text "loginUi" (·.loginUi),
   .text "loginCheckJs" (·.loginCheckJs),
   .text "coverDecodeJs" (·.coverDecodeJs),
   .text "variableComment" (·.variableComment),
   .whole "lastUpdateTime" (·.lastUpdateTime),
   .whole "respondTime" (·.respondTime),
   .whole "weight" (·.weight),
   .text "exploreUrl" (·.exploreUrl),
   .text "exploreScreen" (·.exploreScreen),
   .text "searchUrl" (·.searchUrl),
   .group SearchRules.ofMembers "ruleSearch" (·.searchRules),
   .group ListRules.ofMembers "ruleExplore" (·.exploreRules),
   .group DetailRules.ofMembers "ruleBookInfo" (·.detailRules),
   .group TocRules.ofMembers "ruleToc" (·.tocRules),
   .group ContentRules.ofMembers "ruleContent" (·.contentRules)]

/-- The address is the only other member of a source. -/
theorem members_names (s : Source) :
    s.members.map (·.1) = "bookSourceUrl" :: fields.map (·.key) := rfl

/-- No field takes anything from a null. -/
theorem take_null : ∀ f ∈ fields, f.take .null = none := by
  simp [fields, cookieJar, Field.name, Field.text, Field.whole, Field.truth, Field.answer,
    Field.group]

/-- Each field is read from its own member.  Without one, every field is what it is declared to
    be, but whether cookies are kept is unknown. -/
theorem reads_fields :
    ∀ f ∈ fields, ∃ otherwise, f.Reads otherwise
      ∧ (otherwise = f.get declared ↔ f.key ≠ "enabledCookieJar") := by
  simp only [fields, List.forall_mem_cons]
  exact ⟨⟨_, Field.reads_name fun _ => rfl, iff_of_true rfl (by decide)⟩,
    ⟨_, Field.reads_text fun _ => rfl, iff_of_true rfl (by decide)⟩,
    ⟨_, Field.reads_whole fun _ => rfl, iff_of_true rfl (by decide)⟩,
    ⟨_, Field.reads_text fun _ => rfl, iff_of_true rfl (by decide)⟩,
    ⟨_, Field.reads_whole fun _ => rfl, iff_of_true rfl (by decide)⟩,
    ⟨_, Field.reads_truth fun _ => rfl, iff_of_true rfl (by decide)⟩,
    ⟨_, Field.reads_truth fun _ => rfl, iff_of_true rfl (by decide)⟩,
    ⟨_, Field.reads_text fun _ => rfl, iff_of_true rfl (by decide)⟩,
    ⟨_, Field.reads_text fun _ => rfl, iff_of_true rfl (by decide)⟩,
    ⟨_, Field.reads_answer fun _ => rfl,
      iff_of_false (Option.some_ne_none true).symm fun hkey => hkey rfl⟩,
    ⟨_, Field.reads_text fun _ => rfl, iff_of_true rfl (by decide)⟩,
    ⟨_, Field.reads_text fun _ => rfl, iff_of_true rfl (by decide)⟩,
    ⟨_, Field.reads_text fun _ => rfl, iff_of_true rfl (by decide)⟩,
    ⟨_, Field.reads_text fun _ => rfl, iff_of_true rfl (by decide)⟩,
    ⟨_, Field.reads_text fun _ => rfl, iff_of_true rfl (by decide)⟩,
    ⟨_, Field.reads_text fun _ => rfl, iff_of_true rfl (by decide)⟩,
    ⟨_, Field.reads_text fun _ => rfl, iff_of_true rfl (by decide)⟩,
    ⟨_, Field.reads_whole fun _ => rfl, iff_of_true rfl (by decide)⟩,
    ⟨_, Field.reads_whole fun _ => rfl, iff_of_true rfl (by decide)⟩,
    ⟨_, Field.reads_whole fun _ => rfl, iff_of_true rfl (by decide)⟩,
    ⟨_, Field.reads_text fun _ => rfl, iff_of_true rfl (by decide)⟩,
    ⟨_, Field.reads_text fun _ => rfl, iff_of_true rfl (by decide)⟩,
    ⟨_, Field.reads_text fun _ => rfl, iff_of_true rfl (by decide)⟩,
    ⟨_, Field.reads_group fun _ => rfl, iff_of_true rfl (by decide)⟩,
    ⟨_, Field.reads_group fun _ => rfl, iff_of_true rfl (by decide)⟩,
    ⟨_, Field.reads_group fun _ => rfl, iff_of_true rfl (by decide)⟩,
    ⟨_, Field.reads_group fun _ => rfl, iff_of_true rfl (by decide)⟩,
    ⟨_, Field.reads_group fun _ => rfl, iff_of_true rfl (by decide)⟩,
    fun _ h => (nomatch h)⟩

section
variable {f : Field}

/-- A field is its default where its own member is absent or has a value that it does not
    accept, and a null is never accepted; otherwise it is what the value says.  It does not
    hang on any other member.  This goes for every field but one: whether cookies are kept is
    then not what it is declared to be. -/
theorem default_iff (hf : f ∈ fields) (ms : Members) :
    (∀ s : Source, s.members.map (·.1) = "bookSourceUrl" :: fields.map (·.key))
    ∧ f.take .null = none
    ∧ ((find? f.key ms).bind f.take = none →
        (f.get (ofMembers ms) = f.get declared ↔ f.key ≠ "enabledCookieJar"))
    ∧ (∀ value, (find? f.key ms).bind f.take = some value → f.get (ofMembers ms) = value)
    ∧ ∀ ms', find? f.key ms' = find? f.key ms → f.get (ofMembers ms') = f.get (ofMembers ms) := by
  obtain ⟨otherwise, hreads, hdefault⟩ := reads_fields f hf
  refine ⟨members_names, take_null f hf, ?_, ?_, ?_⟩
  · intro hnone
    rw [hreads ms, hnone, Option.getD_none, hdefault]
  · intro value hvalue
    rw [hreads ms, hvalue, Option.getD_some]
  · intro ms' hsame
    rw [hreads ms', hreads ms, hsame]

end

/-- A weight that is no number leaves the default, whatever stands beside it. -/
theorem weight_without_number :
    Field.whole "weight" (·.weight) ∈ fields
      ∧ (Field.whole "weight" (·.weight)).take (.str "heavy") = none
      ∧ (ofMembers [("enabledCookieJar", .bool false), ("weight", .str "heavy"),
        ("respondTime", .int 5)]).weight = declared.weight := by
  have hmem : Field.whole "weight" (·.weight) ∈ fields := by simp [fields]
  have hnone : (Field.whole "weight" (·.weight)).take (.str "heavy") = none := by rfl
  obtain ⟨-, -, hdefault, -, -⟩ := default_iff hmem
    [("enabledCookieJar", .bool false), ("weight", .str "heavy"), ("respondTime", .int 5)]
  exact ⟨hmem, hnone, (hdefault hnone).mpr (by decide)⟩

/-- A word where it should say whether cookies are kept is not accepted, and does not leave
    the default. -/
theorem word_for_cookies_not_default :
    ¬ ∀ f ∈ fields, ∀ ms, (find? f.key ms).bind f.take = none →
      f.get (ofMembers ms) = f.get declared := by
  intro h
  have hmem : cookieJar ∈ fields := by simp [fields]
  have hjar : (ofMembers [("enabledCookieJar", .str "yes")]).enabledCookieJar
      = declared.enabledCookieJar :=
    h cookieJar hmem [("enabledCookieJar", .str "yes")] rfl
  cases hjar

end Gleaner.Source
