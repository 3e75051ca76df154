/-
  Gleaner/Proofs/Text/Trim.lean
  =============================
  **Trimming.**  Trimming twice is trimming once, and a text that starts with characters
  other than blanks still starts with them when it is trimmed.  Blanks around a text do not
  change what it is trimmed to.  The trimmed parts of a text that are not blank are those
  between the places where it is cut (`hasParts_iff`).
-/
import Gleaner.Proofs.Text.Run
import Gleaner.Text.Blank
import Mathlib.Data.List.DropRight

namespace Gleaner.Text

/-! ### Both ends -/

theorem trimBy_eq_rdropWhile (p : Char → Bool) (s : List Char) :
    trimBy p s = (s.dropWhile p).rdropWhile p := rfl

theorem toList_trim (s : String) : (trim s).toList = trimChars s.toList := String.toList_ofList

theorem trim_ofList (s : List Char) : trim (String.ofList s) = String.ofList (trimChars s) := by
  rw [trim, String.toList_ofList]

theorem trimBy_sublist (p : Char → Bool) (s : List Char) : (trimBy p s).Sublist s :=
  (List.rdropWhile_prefix p _).sublist.trans (List.dropWhile_sublist p)

/-- Nothing is left of a text exactly if all of it is trimmed away. -/
theorem trimBy_eq_nil_iff {p : Char → Bool} {s : List Char} :
    trimBy p s = [] ↔ s.all p = true := by
  rw [trimBy_eq_rdropWhile, List.rdropWhile_eq_nil_iff, List.all_eq_true]
  constructor
  · intro h c hc
    have hsplit : c ∈ s.takeWhile p ++ s.dropWhile p := by
      rwa [List.takeWhile_append_dropWhile]
    rcases List.mem_append.mp hsplit with hc | hc
    · exact List.mem_takeWhile_imp hc
    · exact h c hc
  · intro h c hc
    exact h c ((List.dropWhile_sublist p).mem hc)

/-- A text has nothing but blanks exactly if trimming leaves nothing. -/
theorem trim_eq_empty_iff {s : String} : trim s = "" ↔ allBlank s = true := by
  rw [← String.toList_inj, toList_trim, trimChars, allBlank, ← trimBy_eq_nil_iff]
  rfl

theorem trim_ne_empty {s : String} (h : allBlank s = false) : trim s ≠ "" := fun hempty => by
  rw [trim_eq_empty_iff.mp hempty] at h
  cases h

/-! ### Blanks around a text -/

section
variable {p : Char → Bool} {b : List Char}

theorem trimBy_blank_append (h : ∀ c ∈ b, p c = true) (s : List Char) :
    trimBy p (b ++ s) = trimBy p s := by
  rw [trimBy_eq_rdropWhile, List.dropWhile_append_of_pos h, ← trimBy_eq_rdropWhile]

theorem rdropWhile_append_blank (h : ∀ c ∈ b, p c = true) (s : List Char) :
    (s ++ b).rdropWhile p = s.rdropWhile p := by
  rw [List.rdropWhile, List.reverse_append, List.dropWhile_append_of_pos (by simpa using h),
    ← List.rdropWhile]

theorem trimBy_append_blank (h : ∀ c ∈ b, p c = true) (s : List Char) :
    trimBy p (s ++ b) = trimBy p s := by
  rw [trimBy_eq_rdropWhile, trimBy_eq_rdropWhile, List.dropWhile_append]
  split
  · next hempty => rw [List.isEmpty_iff.mp hempty, List.dropWhile_eq_nil_iff.mpr h]
  · exact rdropWhile_append_blank h _

theorem trim_blank_append {w : String} (h : allBlank w = true) (s : String) :
    trim (w ++ s) = trim s := by
  rw [trim, String.toList_append, trimChars, trimBy_blank_append (List.all_eq_true.mp h),
    ← trimChars, ← trim]

theorem trim_append_blank {w : String} (h : allBlank w = true) (s : String) :
    trim (s ++ w) = trim s := by
  rw [trim, String.toList_append, trimChars, trimBy_append_blank (List.all_eq_true.mp h),
    ← trimChars, ← trim]

/-- Around a character that stays, the text before it is trimmed at its front and the text
    after it at its end. -/
theorem trimBy_append_cons {c : Char} (h : p c = false) (s q : List Char) :
    trimBy p (s ++ c :: q) = s.dropWhile p ++ c :: q.rdropWhile p := by
  have hback : (q.reverse ++ c :: (s.dropWhile p).reverse).dropWhile p
      = q.reverse.dropWhile p ++ c :: (s.dropWhile p).reverse := (runs_append_cons h _ _).2
  rw [trimBy_eq_rdropWhile, (runs_append_cons h s q).2, List.rdropWhile]
  simp [List.rdropWhile, hback]

/-- A trimmed text has nothing to drop at either end. -/
theorem dropWhile_of_trimmed {s : List Char} (h : trimBy p s = s) :
    s.dropWhile p = s ∧ s.rdropWhile p = s := by
  have hback : (trimBy p s).length ≤ (s.dropWhile p).length :=
    (List.rdropWhile_prefix p (s.dropWhile p)).length_le
  rw [h] at hback
  have hfront : s.dropWhile p = s := (List.dropWhile_suffix p).eq_of_length_le hback
  rw [trimBy_eq_rdropWhile, hfront] at h
  exact ⟨hfront, h⟩

theorem trimBy_dropWhile (p : Char → Bool) (s : List Char) :
    trimBy p (s.dropWhile p) = trimBy p s := by
  rw [trimBy_eq_rdropWhile, trimBy_eq_rdropWhile, List.dropWhile_idempotent]

/-- The first character that is not dropped at the front is where a trimmed text starts. -/
theorem trimBy_of_dropWhile {c : Char} {s r : List Char} (h : s.dropWhile p = c :: r) :
    p c = false ∧ trimBy p s = c :: r.rdropWhile p := by
  have hhead := List.head_dropWhile_not p (h ▸ List.cons_ne_nil c r : s.dropWhile p ≠ [])
  have hc : p c = false := by simpa [h] using hhead
  refine ⟨hc, ?_⟩
  rw [← trimBy_dropWhile, h, ← List.nil_append (c :: r), trimBy_append_cons hc]
  rfl

theorem head?_trimBy (p : Char → Bool) (s : List Char) :
    (trimBy p s).head? = (s.dropWhile p).head? := by
  cases hfront : s.dropWhile p with
  | nil => rw [trimBy_eq_rdropWhile, hfront, List.rdropWhile_nil]
  | cons c r => rw [(trimBy_of_dropWhile hfront).2, List.head?_cons, List.head?_cons]

/-- Trimming twice is trimming once. -/
theorem trimBy_trimBy (p : Char → Bool) (s : List Char) : trimBy p (trimBy p s) = trimBy p s := by
  cases hfront : s.dropWhile p with
  | nil =>
    rw [trimBy_eq_rdropWhile p s, hfront, List.rdropWhile_nil]
    rfl
  | cons c r =>
    obtain ⟨hc, htrim⟩ := trimBy_of_dropWhile hfront
    rw [htrim, ← List.nil_append (c :: _), trimBy_append_cons hc, List.rdropWhile_idempotent]
    rfl

theorem trim_trim (s : String) : trim (trim s) = trim s := by
  rw [trim, toList_trim, trimChars, trimChars, trimBy_trimBy, ← trimChars, ← trim]

theorem trimBy_rdropWhile (p : Char → Bool) (s : List Char) :
    trimBy p (s.rdropWhile p) = trimBy p s := by
  have hback : ∀ c ∈ s.rtakeWhile p, p c = true := fun c hc => List.mem_rtakeWhile_imp hc
  calc trimBy p (s.rdropWhile p)
      = trimBy p (s.rdropWhile p ++ s.rtakeWhile p) := (trimBy_append_blank hback _).symm
    _ = trimBy p s := by rw [List.rdropWhile_append_rtakeWhile]

end

/-! ### Trimmed parts -/

/-- The text consists of parts with the sign between each two of them, and `found` are the
    parts trimmed, without the blank ones. -/
def HasParts (sep : Char) (text : String) (found : List String) : Prop :=
  ∃ parts : List String, parts ≠ [] ∧ (∀ part ∈ parts, sep ∉ part.toList)
    ∧ text = (String.singleton sep).intercalate parts ∧ found = (parts.map trim).filter (· ≠ "")

/-- They are the parts between the places where the text is cut at the sign. -/
theorem hasParts_iff {sep : Char} {text : String} {found : List String} :
    HasParts sep text found ↔ found
      = ((splitChar sep text.toList).map fun p => String.ofList (trimChars p)).filter (· ≠ "") := by
  constructor
  · rintro ⟨parts, hsome, hparts, rfl, rfl⟩
    obtain ⟨p, more, rfl⟩ := List.exists_cons_of_ne_nil hsome
    have hsplit : splitChar sep (joinChar sep ((p :: more).map String.toList))
        = (p :: more).map String.toList :=
      splitChar_joinChar (by simpa using hparts)
    rw [toList_intercalate sep (String.toList_singleton _), hsplit, List.map_map]
    rfl
  · rintro rfl
    refine ⟨(splitChar sep text.toList).map String.ofList, ?_, ?_, ?_, ?_⟩
    · simpa using splitChar_ne_nil sep text.toList
    · intro part hpart
      obtain ⟨p, hp, rfl⟩ := List.mem_map.mp hpart
      simpa using notMem_splitChar hp
    · refine String.toList_injective ?_
      rw [toList_intercalate sep (String.toList_singleton _), List.map_map]
      simp [Function.comp_def, joinChar_splitChar]
    · simp [trim, Function.comp_def]

/-! ### Texts with a given start -/

/-- What is dropped from the front stood there. -/
theorem dropFront?_eq_some_iff {p s r : List Char} : dropFront? p s = some r ↔ s = p ++ r := by
  induction p generalizing s with
  | nil => simp [dropFront?, eq_comm]
  | cons c p ih =>
    cases s with
    | nil => simp [dropFront?]
    | cons d s =>
      by_cases h : c = d
      · subst h
        simp [dropFront?, ih]
      · simp [dropFront?, h, Ne.symm h]

theorem startsWith_iff {p s : List Char} : startsWith p s = true ↔ ∃ r, s = p ++ r := by
  unfold startsWith
  rw [Option.isSome_iff_exists]
  simp only [dropFront?_eq_some_iff]

/-- The first pair of colons is the one after a text that has none and does not end in a colon. -/
theorem cutAt?_colons {s : List Char} (hpair : ¬ [':', ':'] <:+: s) (hend : s.getLast? ≠ some ':')
    (rest : List Char) :
    cutAt? [':', ':'] (s ++ ':' :: ':' :: rest) = some (s, rest) := by
  induction s with
  | nil => simp [cutAt?, dropFront?]
  | cons c s ih =>
    have hmore : cutAt? [':', ':'] (s ++ ':' :: ':' :: rest) = some (s, rest) := by
      refine ih (fun h => hpair (h.trans (List.suffix_cons c s).isInfix)) fun h => hend ?_
      cases s with
      | nil => cases h
      | cons d s => simpa using h
    have hnone : ∀ r, c :: (s ++ ':' :: ':' :: rest) ≠ ':' :: ':' :: r := by
      intro r hr
      obtain ⟨rfl, htail⟩ := List.cons.inj hr
      cases s with
      | nil => exact hend rfl
      | cons d s =>
        obtain ⟨rfl, -⟩ := List.cons.inj htail
        exact hpair ⟨[], s, rfl⟩
    have hdrop : dropFront? [':', ':'] (c :: (s ++ ':' :: ':' :: rest)) = none :=
      Option.eq_none_iff_forall_ne_some.mpr fun r hr => hnone r (dropFront?_eq_some_iff.mp hr)
    rw [List.cons_append, cutAt?, hdrop]
    simp [hmore]

/-- What follows a character that the start does not have is not looked at. -/
theorem startsWith_append_cons {c : Char} {pattern : List Char} (h : c ∉ pattern)
    (s q : List Char) :
    startsWith pattern (s ++ c :: q) = startsWith pattern s := by
  rw [Bool.eq_iff_iff, startsWith_iff, startsWith_iff]
  constructor
  · rintro ⟨r, hr⟩
    rcases List.append_eq_append_iff.mp hr with ⟨more, rfl, hmore⟩ | ⟨more, rfl, -⟩
    · cases more with
      | nil => exact ⟨[], by simp⟩
      | cons d more =>
        obtain ⟨rfl, -⟩ := List.cons.inj hmore
        exact absurd (List.mem_append_right _ List.mem_cons_self) h
    · exact ⟨more, rfl⟩
  · rintro ⟨r, rfl⟩
    exact ⟨r ++ c :: q, by simp⟩

/-- Trimming leaves the start of a text alone if it has no blanks. -/
theorem trimBy_append {q : Char → Bool} {p : List Char} (hne : p ≠ []) (hp : ∀ c ∈ p, q c = false)
    (r : List Char) : trimBy q (p ++ r) = p ++ r.rdropWhile q := by
  obtain ⟨front, last, rfl⟩ := (List.eq_nil_or_concat' p).resolve_left hne
  have hfront : front.dropWhile q = front := by
    cases front with
    | nil => rfl
    | cons c front => simp [hp c (by simp)]
  have hlast : q last = false := hp last (by simp)
  rw [List.append_assoc, List.singleton_append, trimBy_append_cons hlast, hfront, List.append_assoc,
    List.singleton_append]

/-- A text without blanks has nothing to trim. -/
theorem trimBy_of_none {q : Char → Bool} {s : List Char} (h : ∀ c ∈ s, q c = false) :
    trimBy q s = s := by
  cases s with
  | nil => rfl
  | cons c s => simpa using trimBy_append (List.cons_ne_nil c s) h []

theorem startsWith_trimChars {p s : List Char} (hne : p ≠ [])
    (hp : (p.all fun c => !isBlank c) = true) (h : startsWith p s = true) :
    startsWith p (trimChars s) = true := by
  obtain ⟨r, rfl⟩ := startsWith_iff.mp h
  have hblank : ∀ c ∈ p, isBlank c = false := by
    intro c hc
    simpa using List.all_eq_true.mp hp c hc
  unfold trimChars
  rw [trimBy_append hne hblank]
  exact startsWith_iff.mpr ⟨_, rfl⟩

end Gleaner.Text
