/-
  Gleaner/Proofs/Text/Run.lean
  ============================
  **Characters and runs.**  What holds of the characters of ASCII one by one holds of all
  of them.  A run of characters of one kind ends where what follows it starts with a
  character of another kind; a text without a sign ends at the first such sign after it.
-/
import Gleaner.Text.Split

namespace Gleaner.Text

theorem forall_ascii {p : Char → Prop} (hall : ∀ n < 128, p (Char.ofNat n)) {c : Char}
    (h : c.toNat < 128) :
    p c := by
  have hc := hall c.toNat h
  rwa [Char.ofNat_toNat] at hc

section
variable {p : Char → Bool} {c : Char} {s rest : List Char}

/-- A run ends where what follows it starts with another character. -/
theorem takeWhile_run (h : ∀ c ∈ s, p c = true) (hrest : ∀ c ∈ rest.head?, p c = false) :
    (s ++ rest).takeWhile p = s := by
  rw [List.takeWhile_append_of_pos h]
  cases rest with
  | nil => simp
  | cons c rest => simp [hrest c rfl]

theorem dropWhile_run (h : ∀ c ∈ s, p c = true) (hrest : ∀ c ∈ rest.head?, p c = false) :
    (s ++ rest).dropWhile p = rest := by
  rw [List.dropWhile_append_of_pos h]
  cases rest with
  | nil => rfl
  | cons c rest => simp [hrest c rfl]

/-- A run ends at the latest before a character of another kind. -/
theorem runs_append_cons (h : p c = false) (s q : List Char) :
    (s ++ c :: q).takeWhile p = s.takeWhile p
      ∧ (s ++ c :: q).dropWhile p = s.dropWhile p ++ c :: q := by
  induction s with
  | nil => simp [h]
  | cons d s ih =>
    by_cases hd : p d = true
    · simp [hd, ih]
    · simp [hd]

end

/-- The cut at a sign comes at the end of a text without it. -/
theorem cutAt?_sign {d : Char} {s : List Char} (h : d ∉ s) (rest : List Char) :
    cutAt? [d] (s ++ d :: rest) = some (s, rest) := by
  induction s with
  | nil => simp [cutAt?, dropFront?]
  | cons c s ih =>
    have hc : d ≠ c := fun e => h (e ▸ List.mem_cons_self)
    rw [List.cons_append, cutAt?, ih fun hmem => h (List.mem_cons_of_mem c hmem)]
    simp [dropFront?, hc]

/-! ### Joined parts -/

section
variable {sep : Char}

/-- The parts of a text are those before a sign and those after it. -/
theorem splitChar_append_cons (sep : Char) (s q : List Char) :
    splitChar sep (s ++ sep :: q) = splitChar sep s ++ splitChar sep q := by
  induction s with
  | nil => simp [splitChar]
  | cons c s ih =>
    rw [List.cons_append, splitChar, splitChar, ih]
    split
    · rfl
    · obtain ⟨p, ps, hs⟩ := List.exists_cons_of_ne_nil (splitChar_ne_nil sep s)
      rw [hs]
      rfl

/-- No part of a text holds the sign at which it was split. -/
theorem notMem_splitChar {s p : List Char} (h : p ∈ splitChar sep s) : sep ∉ p := by
  induction s generalizing p with
  | nil =>
    obtain rfl : p = [] := by simpa [splitChar] using h
    exact List.not_mem_nil
  | cons c s ih =>
    obtain ⟨q, qs, hs⟩ := List.exists_cons_of_ne_nil (splitChar_ne_nil sep s)
    rw [splitChar, hs] at h
    rw [hs] at ih
    split at h
    · rcases List.mem_cons.mp h with rfl | h
      · exact List.not_mem_nil
      · exact ih h
    · next hc =>
      rcases List.mem_cons.mp h with rfl | h
      · exact List.not_mem_cons_of_ne_of_not_mem (Ne.symm hc) (ih List.mem_cons_self)
      · exact ih (List.mem_cons_of_mem q h)

theorem mem_joinChar {parts : List (List Char)} {c : Char} (h : c ∈ joinChar sep parts) :
    c = sep ∨ ∃ p ∈ parts, c ∈ p := by
  induction parts with
  | nil => cases h
  | cons p parts ih =>
    cases parts with
    | nil => exact .inr ⟨p, List.mem_cons_self, h⟩
    | cons q parts =>
      rcases List.mem_append.mp h with hp | hmore
      · exact .inr ⟨p, List.mem_cons_self, hp⟩
      rcases List.mem_cons.mp hmore with rfl | hmore
      · exact .inl rfl
      · exact (ih hmore).imp_right fun ⟨r, hr, hc⟩ => ⟨r, List.mem_cons_of_mem p hr, hc⟩

/-- Joined parts end with the last one. -/
theorem joinChar_concat (sep : Char) (parts : List (List Char)) (p : List Char) :
    ∃ front, joinChar sep (parts ++ [p]) = front ++ p := by
  induction parts with
  | nil => exact ⟨[], rfl⟩
  | cons q parts ih =>
    obtain ⟨front, hfront⟩ := ih
    obtain ⟨r, more, hmore⟩ : ∃ r more, parts ++ [p] = r :: more :=
      List.exists_cons_of_ne_nil (by simp)
    refine ⟨q ++ sep :: front, ?_⟩
    rw [hmore] at hfront
    rw [List.cons_append, hmore, joinChar, hfront, List.append_assoc, List.cons_append]

/-- Joined parts are cut where they were joined. -/
theorem splitChar_joinChar {p : List Char} {parts : List (List Char)}
    (h : ∀ q ∈ p :: parts, sep ∉ q) :
    splitChar sep (joinChar sep (p :: parts)) = p :: parts := by
  induction parts generalizing p with
  | nil => exact splitChar_of_notMem (h p List.mem_cons_self)
  | cons q parts ih =>
    rw [joinChar, splitChar_append (h p List.mem_cons_self),
      ih fun r hr => h r (List.mem_cons_of_mem p hr)]

theorem toList_intercalate (sep : Char) {s : String} (hs : s.toList = [sep]) (parts : List String) :
    (s.intercalate parts).toList = joinChar sep (parts.map String.toList) := by
  induction parts with
  | nil => simp [joinChar]
  | cons p parts ih =>
    cases parts with
    | nil => simp [joinChar]
    | cons q parts => simp [String.intercalate_cons_cons, ih, hs, joinChar]

end

end Gleaner.Text
