/-
  Gleaner/Proofs/Json/Chain.lean
  ==============================
  **Members of members.**  A rule `a.b.c` of plain names, also written `$.a.b.c`, selects the
  value that is reached by taking one member after another (`lookups_follow_members`).

  Three ways lead there: the rule names a member by itself; it is read as a path; or it is
  walked name by name, where a name is beyond ASCII.  Which one is taken makes no difference,
  except where the value has a member that is named like the whole rule, dots and all.
-/
import Gleaner.Json.Select
import Gleaner.Proofs.Json.Name
import Gleaner.Proofs.Text.Run

namespace Gleaner.Json

def chain? : Json → List String → Option Json
  | v, [] => some v
  | v, name :: more => (v.member? name).bind (chain? · more)

/-! ### A path of members -/

namespace Path

variable {p : Path} {root : Json} {v? : Option Json}

/-- From the outermost value a path leads to one place, where the value stands, or to none. -/
def Reaches (p : Path) (root : Json) (v? : Option Json) : Prop :=
  ∃ places, p.select (.alone root "$") = some places ∧ places.map (·.value) = v?.toList

theorem reaches_root (root : Json) : Path.root.Reaches root (some root) :=
  ⟨[.alone root "$"], by rw [select]; rfl, rfl⟩

theorem gather_singleton {α β : Type} {f : α → Option (List β)} {x : α} {ys : List β}
    (h : f x = some ys) :
    gather f [x] = some ys := by
  rw [gather, h, gather]
  dsimp only
  rw [List.append_nil]

theorem select_field (m : Place) (name : String) :
    ∃ places, (Path.fields [name]).select m = some places
      ∧ places.map (·.value) = (m.value.member? name).toList := by
  rw [select]
  cases hvalue : m.value with
  | obj ms =>
    refine ⟨_, rfl, ?_⟩
    have hmember : (Json.obj ms).member? name = find? name ms := rfl
    rw [hmember]
    cases hfind : find? name ms with
    | none => simp [hfind]
    | some v => simp [hfind, Place.under]
  | _ => exact ⟨[], rfl, rfl⟩

/-- A step by name goes to the member, if there is one. -/
theorem Reaches.child (h : p.Reaches root v?) (name : String) :
    (Path.child p (.fields [name])).Reaches root (v?.bind (·.member? name)) := by
  obtain ⟨places, hselect, hvalues⟩ := h
  unfold Reaches
  rw [select, hselect]
  cases v? with
  | none =>
    obtain rfl : places = [] := List.map_eq_nil_iff.mp hvalues
    exact ⟨[], rfl, rfl⟩
  | some v =>
    obtain ⟨m, rfl, hm⟩ := List.map_eq_singleton_iff.mp hvalues
    obtain ⟨found, hfound, hmember⟩ := select_field m name
    refine ⟨found, ?_, ?_⟩
    · exact gather_singleton hfound
    · rw [hmember, hm]
      rfl

/-- A path that is followed further leads to the member of what it led to. -/
theorem Reaches.follow (h : p.Reaches root v?) (path : List String) :
    (p.follow path).Reaches root (v?.bind (·.chain? path)) := by
  induction path generalizing p v? with
  | nil =>
    have hsame : (v?.bind (·.chain? [])) = v? := by cases v? <;> rfl
    rw [hsame]
    exact h
  | cons name more ih =>
    have hsame :
        (v?.bind (·.chain? (name :: more))) = (v?.bind (·.member? name)).bind (·.chain? more) := by
      rw [Option.bind_assoc]
      rfl
    rw [hsame]
    exact ih (h.child name)

theorem Reaches.values (h : p.Reaches root v?) : p.values root = v?.toList := by
  obtain ⟨places, hselect, hvalues⟩ := h
  unfold Path.values
  rw [hselect]
  exact hvalues

end Path

/-! ### Walking by name -/

/-- A text that does not start with a digit is no position. -/
theorem step_eq_member {part : List Char} (hne : part ≠ [])
    (hstart : ∀ c ∈ part.head?, Text.asciiDigit c = false) (v : Json) :
    step v part = .ok (v.member? (String.ofList part)) := by
  obtain ⟨c, s, rfl⟩ := List.exists_cons_of_ne_nil hne
  have hposition : ∀ size, position? size (c :: s) = .ok none := by
    intro size
    unfold position?
    rw [if_pos (by rw [List.all_cons, hstart c rfl]; rfl)]
  cases v with
  | arr items =>
    rw [step, hposition]
    rfl
  | _ => rfl

/-- A walk along plain names never fails: where a member is missing it ends with nothing. -/
theorem walk_names {path : List String} (hpath : ∀ name ∈ path, PlainName name) (v : Json) :
    walk v (path.map String.toList) = .ok (v.chain? path) := by
  induction path generalizing v with
  | nil => rfl
  | cons name more ih =>
    obtain ⟨hname, hmore⟩ := List.forall_mem_cons.mp hpath
    rw [List.map_cons, walk, step_eq_member hname.nonempty hname.start,
      String.ofList_toList, chain?]
    cases v.member? name with
    | none => rfl
    | some w => exact ih hmore w

/-! ### Spellings of a path -/

/-- Names are written with dots between them, perhaps after `$.`. -/
inductive Spelling (path : List String) : String → Prop
  | bare : Spelling path (".".intercalate path)
  | rooted : Spelling path ("$." ++ ".".intercalate path)

theorem joinChar_names (name : String) (more : List String) :
    Text.joinChar '.' ((name :: more).map String.toList) = name.toList ++ dotted more := by
  induction more generalizing name with
  | nil => simp [Text.joinChar, dotted]
  | cons other more ih =>
    rw [dotted_cons, ← ih other]
    rfl

theorem toList_intercalate_dot (name : String) (more : List String) :
    (".".intercalate (name :: more)).toList = name.toList ++ dotted more := by
  rw [Text.toList_intercalate '.' rfl, joinChar_names]

section Spelling

variable {name key : String} {more : List String}

theorem Spelling.toList (h : Spelling (name :: more) key) :
    key.toList = name.toList ++ dotted more ∨ key.toList = '$' :: dotted (name :: more) := by
  cases h with
  | bare => exact .inl (toList_intercalate_dot name more)
  | rooted =>
    refine .inr ?_
    rw [String.toList_append, toList_intercalate_dot, dotted_cons]
    rfl

theorem mem_dotted {path : List String} (hpath : ∀ name ∈ path, PlainName name) {c : Char}
    (hc : c ∈ dotted path) : plainChar c = true ∨ c = '.' := by
  obtain ⟨name, hname, hmem⟩ := List.mem_flatMap.mp hc
  rcases List.mem_cons.mp hmem with rfl | hmem
  · exact .inr rfl
  · exact .inl ((hpath name hname).chars c hmem)

/-- The parts between the dots are the names. -/
theorem splitChar_names (hdots : ∀ other ∈ name :: more, '.' ∉ other.toList) :
    Text.splitChar '.' (name.toList ++ dotted more) = (name :: more).map String.toList := by
  have hparts : ∀ part ∈ (name :: more).map String.toList, '.' ∉ part := by
    intro part hpart
    obtain ⟨other, hother, rfl⟩ := List.mem_map.mp hpart
    exact hdots other hother
  rw [← joinChar_names, List.map_cons, Text.splitChar_joinChar hparts]

variable (hpath : ∀ other ∈ name :: more, PlainName other) (hkey : Spelling (name :: more) key)
include hpath hkey

/-- Both spellings of a path come to the same text for the reader of paths. -/
theorem Spelling.pathText_eq : pathText key.toList = '$' :: dotted (name :: more) := by
  obtain ⟨c, s, hs, hc⟩ := (hpath name List.mem_cons_self).eq_cons
  have hne := ne_of_plain hc
  rcases hkey.toList with h | h
  · rw [h, dotted_cons, hs, List.cons_append]
    unfold pathText
    split
    · next heq => exact absurd (List.head_eq_of_cons_eq heq) (hne '$' (by decide))
    · next heq => exact absurd (List.head_eq_of_cons_eq heq) (hne '[' (by decide))
    · rfl
  · rw [h]
    rfl

theorem Spelling.walkParts_eq : walkParts key.toList = (name :: more).map String.toList := by
  obtain ⟨c, s, hs, hc⟩ := (hpath name List.mem_cons_self).eq_cons
  have hne := ne_of_plain hc
  have hdots : ∀ other ∈ name :: more, '.' ∉ other.toList := by
    intro other hother hmem
    exact ne_of_plain ((hpath other hother).chars '.' hmem) '.' (by decide) rfl
  rw [← splitChar_names hdots]
  rcases hkey.toList with h | h
  · rw [h, hs, List.cons_append]
    unfold walkParts
    split
    · next heq => exact absurd (List.head_eq_of_cons_eq heq) (hne '$' (by decide))
    · rfl
  · have hdrop : (dotted (name :: more)).dropWhile (· == '.') = name.toList ++ dotted more := by
      rw [dotted_cons, List.dropWhile_cons, if_pos (beq_self_eq_true '.'), hs, List.cons_append,
        List.dropWhile_cons, if_neg (Bool.eq_false_iff.mp (beq_false_of_ne (hne '.' (by decide))))]
    rw [h, walkParts, hdrop]

theorem Spelling.chars {c : Char} (hc : c ∈ key.toList) :
    plainChar c = true ∨ c = '.' ∨ c = '$' := by
  have hdotted : ∀ {c}, c ∈ dotted (name :: more) → plainChar c = true ∨ c = '.' ∨ c = '$' :=
    fun hmem => (mem_dotted hpath hmem).imp_right .inl
  rcases hkey.toList with h | h <;> rw [h] at hc
  · exact hdotted (List.mem_cons_of_mem '.' hc)
  · rcases List.mem_cons.mp hc with rfl | hc
    · exact .inr (.inr rfl)
    · exact hdotted hc

theorem Spelling.start : key.toList ≠ [] ∧ ∀ c ∈ key.toList.head?, Text.asciiDigit c = false := by
  have hname := hpath name List.mem_cons_self
  rcases hkey.toList with h | h <;> rw [h]
  · obtain ⟨c, s, hs, -⟩ := hname.eq_cons
    have hstart := hname.start
    rw [hs] at hstart ⊢
    exact ⟨List.cons_ne_nil c _, hstart⟩
  · refine ⟨List.cons_ne_nil _ _, ?_⟩
    rintro c ⟨⟩
    decide

/-- A path of plain names stands for itself as a rule. -/
theorem Spelling.key_eq : Rule.key key = key := by
  have hchars : ∀ c ∈ key.toList, c ≠ '@' ∧ Text.isBlank c = false := by
    intro c hc
    rcases hkey.chars hpath hc with hplain | rfl | rfl
    · exact ⟨ne_of_plain hplain '@' (by decide), isBlank_of_plain hplain⟩
    · decide
    · decide
  have hsplit : Text.splitChar '@' key.toList = [key.toList] :=
    Text.splitChar_of_notMem fun hmem => (hchars '@' hmem).1 rfl
  have htrim : Text.trimChars key.toList = key.toList := by
    have h := Text.trimBy_append (hkey.start hpath).1 (fun c hc => (hchars c hc).2) []
    rwa [List.append_nil, List.rdropWhile_nil, List.append_nil] at h
  unfold Rule.key
  rw [hsplit]
  simp [Text.joinChar, htrim]

/-- However the names are spelled, the key selects the value that the chain of members leads
    to. -/
theorem Spelling.query_eq (root : Json) :
    query root key = .ok (root.chain? (name :: more)).toList := by
  have hne : key ≠ "" := by
    rintro rfl
    exact (hkey.start hpath).1 rfl
  unfold query
  rw [if_neg hne, hkey.pathText_eq hpath, Path.parse_dotted hpath, hkey.walkParts_eq hpath,
    walk_names hpath]
  by_cases hascii : (name :: more).all inAscii = true
  · rw [if_pos hascii]
    exact congrArg Except.ok ((Path.reaches_root root).follow (name :: more)).values
  · rw [if_neg hascii]
    rfl

theorem Spelling.direct?_eq (root : Json) : direct? root key = .ok (root.member? key) := by
  obtain ⟨hne, hstart⟩ := hkey.start hpath
  unfold direct?
  rw [step_eq_member hne hstart, String.ofList_toList]

end Spelling

/-! ### The three ways -/

/-- What a value gives where a list is asked for: the items of a list, and nothing for null. -/
def listed : Option Json → List Json
  | some (.arr items) => items
  | some .null => []
  | some v => [v]
  | none => []

theorem spliced_toList (v? : Option Json) : spliced v?.toList = listed v? := by
  cases v? with
  | none => rfl
  | some v => cases v <;> simp [spliced, listed]

/-- A rule of plain names selects what taking one member after another comes to, as a path, as
    a value and as a list; where a value has a member named like a longer rule, that member
    comes first in the last two. -/
theorem lookups_follow_members (root : Json) (path : List String) (key : String) (hsome : path ≠ [])
    (hpath : ∀ name ∈ path, PlainName name) (hkey : Spelling path key) :
    query root key = .ok (root.chain? path).toList
      ∧ (root.member? key = none ∨ path = [key] →
        selectValue root key = .ok (root.chain? path)
          ∧ selectList root key = .ok (listed (root.chain? path))) := by
  obtain ⟨name, more, rfl⟩ := List.exists_cons_of_ne_nil hsome
  have hquery := hkey.query_eq hpath root
  refine ⟨hquery, fun hown => ?_⟩
  -- a member that is found directly is the first and last of the chain
  have hmember : ∀ v, root.member? key = some v → root.chain? (name :: more) = some v := by
    intro v hv
    rcases hown with hnone | hsingle
    · rw [hnone] at hv
      cases hv
    · rw [hsingle, chain?, hv]
      rfl
  unfold selectValue selectList
  dsimp only
  rw [hkey.key_eq hpath, hkey.direct?_eq hpath, hquery]
  cases hv : root.member? key with
  | none =>
    refine ⟨?_, congrArg Except.ok (spliced_toList _)⟩
    cases root.chain? (name :: more) <;> rfl
  | some v =>
    rw [hmember v hv]
    refine ⟨rfl, ?_⟩
    cases v <;> rfl

/-- Two names, the second of which goes beyond ASCII after its first letter. -/
theorem mixed_names_follow_members :
    query (.obj [("data", .obj [("l书", .arr [.null, .int 1])])]) "$.data.l书"
      = .ok [.arr [.null, .int 1]]
      ∧ selectList (.obj [("data", .obj [("l书", .arr [.null, .int 1])])]) "$.data.l书"
        = .ok [.null, .int 1] := by
  have hdata : PlainName "data" :=
    ⟨by decide, List.all_eq_true.mp (by decide), by rintro c ⟨⟩; decide, by decide, by decide⟩
  have hbook : PlainName "l书" :=
    ⟨by decide, List.all_eq_true.mp (by decide), by rintro c ⟨⟩; decide, by decide, by decide⟩
  have hkey : Spelling ["data", "l书"] "$.data.l书" := .rooted
  obtain ⟨hquery, hlookup⟩ := lookups_follow_members
    (.obj [("data", .obj [("l书", .arr [.null, .int 1])])]) ["data", "l书"] "$.data.l书" (by decide)
    (by simp [hdata, hbook]) hkey
  exact ⟨hquery, (hlookup (.inl rfl)).2⟩

end Gleaner.Json
