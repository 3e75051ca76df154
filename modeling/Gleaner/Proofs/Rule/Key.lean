/-
  Gleaner/Proofs/Rule/Key.lean
  ============================
  **Rules in data.**  In data a rule stands for its key: the rule, trimmed, without a reserved word
  that follows its last `@`.  A word that is put after a rule of its own is dropped again, so
  the rule selects the same with it and without it, as long as it does not end in such a word
  already (`word_after_rule_ignored`).
-/
import Gleaner.Page.Basic
import Gleaner.Proofs.Rule.Segments

namespace Gleaner

namespace Rule

variable {rule front last word b b' : String}

/-! ### Keys -/

theorem key_of_notMem (h : '@' ∉ rule.toList) : key rule = Text.trim rule := by
  unfold key
  rw [Text.splitChar_of_notMem h]
  simp [Text.joinChar, Text.trim]

theorem splitChar_last (front : String) (h : '@' ∉ last.toList) :
    Text.splitChar '@' (front ++ "@" ++ last).toList
      = Text.splitChar '@' front.toList ++ [last.toList] := by
  have htext : (front ++ "@" ++ last).toList = front.toList ++ '@' :: last.toList := by simp
  rw [htext, Text.splitChar_append_cons, Text.splitChar_of_notMem h]

/-- What follows the last `@` is dropped if it is a reserved word with or without blanks. -/
theorem key_append (front : String) (h : '@' ∉ last.toList) :
    key (front ++ "@" ++ last)
      = if Text.trim last ∈ reserved then Text.trim front
      else Text.trim (front ++ "@" ++ last) := by
  have hlength : 1 < (Text.splitChar '@' front.toList ++ [last.toList]).length := by
    have hpos := List.length_pos_of_ne_nil (Text.splitChar_ne_nil '@' front.toList)
    rw [List.length_append, List.length_singleton]
    omega
  have hwhole := Text.joinChar_splitChar '@' (front ++ "@" ++ last).toList
  rw [splitChar_last front h] at hwhole
  unfold key
  rw [splitChar_last front h]
  dsimp only
  rw [List.getLast?_concat]
  dsimp only
  by_cases hword : Text.trim last ∈ reserved
  · rw [if_pos hword, if_pos ⟨hlength, hword⟩, List.dropLast_concat, Text.joinChar_splitChar]
    rfl
  · rw [if_neg hword, if_neg fun hboth => hword hboth.2, hwhole]
    rfl

/-- A rule with an `@` is trimmed at the front of what comes before it and at the end of what
    comes after it. -/
theorem trim_append (front last : String) : Text.trim (front ++ "@" ++ last)
    = String.ofList (front.toList.dropWhile Text.isBlank) ++ "@"
      ++ String.ofList (last.toList.rdropWhile Text.isBlank) := by
  have htext : (front ++ "@" ++ last).toList = front.toList ++ '@' :: last.toList := by simp
  refine String.toList_injective ?_
  rw [Text.toList_trim, htext, Text.trimChars, Text.trimBy_append_cons (by decide)]
  simp

/-- Blanks around a rule do not count for its key. -/
theorem key_trim (rule : String) : key (Text.trim rule) = key rule := by
  by_cases h : '@' ∈ rule.toList
  · obtain ⟨front, last, rfl, hlast⟩ := exists_last_part h
    have hnone : '@' ∉ (String.ofList (last.toList.rdropWhile Text.isBlank)).toList := by
      rw [String.toList_ofList]
      exact fun hmem => hlast ((List.rdropWhile_prefix _ _).subset hmem)
    have hbefore : Text.trim (String.ofList (front.toList.dropWhile Text.isBlank))
        = Text.trim front := by
      rw [Text.trim_ofList, Text.trimChars, Text.trimBy_dropWhile, ← Text.trimChars, ← Text.trim]
    have hafter : Text.trim (String.ofList (last.toList.rdropWhile Text.isBlank))
        = Text.trim last := by
      rw [Text.trim_ofList, Text.trimChars, Text.trimBy_rdropWhile, ← Text.trimChars, ← Text.trim]
    have htwice := Text.trim_trim (front ++ "@" ++ last)
    rw [trim_append] at htwice
    rw [trim_append, key_append _ hnone, hbefore, hafter, htwice, ← trim_append,
      key_append front hlast]
  · have hnone : '@' ∉ (Text.trim rule).toList := by
      rw [Text.toList_trim]
      exact fun hmem => h ((Text.trimBy_sublist _ _).subset hmem)
    rw [key_of_notMem h, key_of_notMem hnone, Text.trim_trim]

/-! ### Words after a rule -/

/-- After its last `@`, if it has one, the rule has no reserved word, with or without blanks. -/
def EndsPlain (rule : String) : Prop :=
  ∀ front last, rule = front ++ "@" ++ last → '@' ∉ last.toList → Text.trim last ∉ reserved

theorem EndsPlain.key_eq (h : EndsPlain rule) : key rule = Text.trim rule := by
  by_cases hsign : '@' ∈ rule.toList
  · obtain ⟨front, last, rfl, hlast⟩ := exists_last_part hsign
    rw [key_append front hlast, if_neg (h front last rfl hlast)]
  · exact key_of_notMem hsign

/-- A reserved word after a rule is dropped, whatever blanks are around it. -/
theorem key_word (rule : String) (hword : word ∈ reserved) (hb : Text.allBlank b = true)
    (hb' : Text.allBlank b' = true) : key (rule ++ "@" ++ (b ++ word ++ b')) = Text.trim rule := by
  have hall : ∀ word ∈ reserved, '@' ∉ word.toList ∧ Text.trim word = word := by decide
  obtain ⟨hsign, hsame⟩ := hall word hword
  have hnone : '@' ∉ (b ++ word ++ b').toList := by
    simp [notMem_of_blank hb, notMem_of_blank hb', hsign]
  have htrim : Text.trim (b ++ word ++ b') = word := by
    rw [Text.trim_append_blank hb', Text.trim_blank_append hb, hsame]
  rw [key_append rule hnone, htrim, if_pos hword]

/-- Where the rule ends in a reserved word already, its key lacks this word and the `@` before
    it. -/
theorem key_eq_trim_iff (rule : String) : key rule = Text.trim rule ↔ EndsPlain rule := by
  refine ⟨?_, EndsPlain.key_eq⟩
  rintro h front last rfl hlast hword
  rw [key_append front hlast, if_pos hword] at h
  have hlength := congrArg (fun s => s.toList.length) h
  have hshort :=
    (List.rdropWhile_prefix Text.isBlank (front.toList.dropWhile Text.isBlank)).length_le
  rw [trim_append] at hlength
  simp only [Text.trim, Text.trimChars, Text.trimBy_eq_rdropWhile, String.toList_append,
    String.toList_ofList, List.length_append] at hlength
  have hsign : "@".toList.length = 1 := rfl
  omega

end Rule

/-! ### Selections -/

namespace Json

variable {rule other : String}

theorem selectValue_of_key (root : Json) (h : Rule.key rule = Rule.key other) :
    selectValue root rule = selectValue root other := by
  rw [selectValue, selectValue, h]

theorem selectList_of_key (root : Json) (h : Rule.key rule = Rule.key other) :
    selectList root rule = selectList root other := by
  rw [selectList, selectList, h]

end Json

namespace Page

variable {rule : String}

/-- In data a rule is followed from the context, trimmed. -/
theorem items_of_rule (root : Json) (context : Option Item) (h : Text.allBlank rule = false) :
    (Page.data root).items (some rule) context
      = ((valueIn root context).selectList (Text.trim rule)).map (·.map .value) :=
  if_neg (Text.trim_ne_empty h)

theorem text_of_rule (root : Json) (context : Option Item) (h : Text.allBlank rule = false) :
    (Page.data root).text (some rule) context
      = ((valueIn root context).selectValue (Text.trim rule)).bind fun v => (v.getD .null).asText :=
  if_neg (Text.trim_ne_empty h)

end Page

namespace Rule

variable {rule word b b' : String}

/-- A rule with a word after it, and blanks around the word. -/
def withWord (rule b word b' : String) : String := rule ++ "@" ++ (b ++ word ++ b')

theorem allBlank_withWord (rule b word b' : String) :
    Text.allBlank (withWord rule b word b') = false := by
  rw [withWord, Text.allBlank, List.all_eq_false]
  exact ⟨'@', by simp, by decide⟩

/-- In data a reserved word after a rule does not count: with it and without it the rule selects
    the same from every value, and on a page in every context.  The rule itself must not end in
    such a word, for then it has another key. -/
theorem word_after_rule_ignored (hrule : Text.allBlank rule = false) (hword : word ∈ reserved)
    (hb : Text.allBlank b = true) (hb' : Text.allBlank b' = true) :
    (key (withWord rule b word b') = key rule ↔ EndsPlain rule)
    ∧ (EndsPlain rule →
      (∀ root, Json.selectValue root (withWord rule b word b') = Json.selectValue root rule
        ∧ Json.selectList root (withWord rule b word b') = Json.selectList root rule
        ∧ Json.query root (key (withWord rule b word b')) = Json.query root (key rule))
      ∧ ∀ root context,
        (Page.data root).items (some (withWord rule b word b')) context
          = (Page.data root).items (some rule) context
        ∧ (Page.data root).text (some (withWord rule b word b')) context
          = (Page.data root).text (some rule) context) := by
  have hkey : key (withWord rule b word b') = Text.trim rule := key_word rule hword hb hb'
  refine ⟨by rw [hkey, eq_comm, key_eq_trim_iff], fun hends => ?_⟩
  have hsame : key (withWord rule b word b') = key rule := hkey.trans hends.key_eq.symm
  -- the rule is trimmed once more before it is followed on a page
  have htrimmed : key (Text.trim (withWord rule b word b')) = key (Text.trim rule) := by
    rw [key_trim, key_trim, hsame]
  have hextended := allBlank_withWord rule b word b'
  refine ⟨fun root => ⟨Json.selectValue_of_key root hsame, Json.selectList_of_key root hsame,
    by rw [hsame]⟩, fun root context => ⟨?_, ?_⟩⟩
  · rw [Page.items_of_rule root context hextended, Page.items_of_rule root context hrule,
      Json.selectList_of_key _ htrimmed]
  · rw [Page.text_of_rule root context hextended, Page.text_of_rule root context hrule,
      Json.selectValue_of_key _ htrimmed]

theorem last_part_eq {front last : String} (h : rule = front ++ "@" ++ last)
    (hlast : '@' ∉ last.toList) : (Text.splitChar '@' rule.toList).getLast? = some last.toList := by
  rw [h, splitChar_last front hlast, List.getLast?_concat]

/-- The rule `a@b` ends in no reserved word, so it finds a member of this name also with one. -/
theorem member_with_sign_found :
    Text.allBlank "a@b" = false ∧ EndsPlain "a@b"
      ∧ Json.selectValue (.obj [("a@b", .int 1)]) (withWord "a@b" " " "href" "\t")
        = .ok (some (.int 1)) := by
  have hends : EndsPlain "a@b" := by
    intro front last h hlast
    have hpart := last_part_eq h hlast
    obtain rfl : last = "b" := String.toList_injective (Option.some.inj hpart).symm
    decide
  have hrule : Text.allBlank "a@b" = false := by decide
  have hword : "href" ∈ reserved := by decide
  have hblank : Text.allBlank " " = true ∧ Text.allBlank "\t" = true := by decide
  obtain ⟨-, hselect⟩ := word_after_rule_ignored hrule hword hblank.1 hblank.2
  obtain ⟨hvalue, -, -⟩ := (hselect hends).1 (.obj [("a@b", .int 1)])
  exact ⟨hrule, hends, hvalue.trans (by rfl)⟩

/-- A reserved word with a blank before it is dropped as well, unless another word follows: the rule
    `a@ text` selects the member `a`, and with a word after it the member `a@ text`. -/
theorem padded_word_counts :
    Text.allBlank "a@ text" = false
      ∧ (∀ front last, "a@ text" = front ++ "@" ++ last → '@' ∉ last.toList → last ∉ reserved)
      ∧ Json.selectValue (.obj [("a", .int 1), ("a@ text", .int 2)]) "a@ text" = .ok (some (.int 1))
      ∧ Json.selectValue (.obj [("a", .int 1), ("a@ text", .int 2)])
        (withWord "a@ text" "" "html" "") = .ok (some (.int 2)) := by
  refine ⟨by decide, ?_, by rfl, by rfl⟩
  intro front last h hlast
  have hpart := last_part_eq h hlast
  obtain rfl : last = " text" := String.toList_injective (Option.some.inj hpart).symm
  decide

end Rule

end Gleaner
