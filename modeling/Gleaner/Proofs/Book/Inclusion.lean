/-
  Gleaner/Proofs/Book/Inclusion.lean
  ==================================
  **Larger caches.**  Two caches with room for a different number of chapters are put to the
  same uses.  The larger one then holds whatever the smaller one holds, with the same texts
  and in the same order of use (`Within`), however the look-ups that only the larger one can
  answer have rearranged it.  So a look-up that finds a text in the smaller cache finds the
  same text in the larger one (`larger_keeps_hits`).
-/
import Gleaner.Proofs.Book.Recency

namespace Gleaner.ChapterCache

open scoped List

/-- The smaller cache holds some entries of the larger one in their order, and as many as it has
    room for. -/
structure Within (small large : ChapterCache) : Prop where
  room : 0 ≤ small.capacity ∧ small.capacity ≤ large.capacity
  entries : small.entries <+ large.entries
  size : small.size = min small.capacity.toNat large.size
  bounded : large.size ≤ large.capacity.toNat
  distinct : large.keys.Nodup

section Within

variable {small large : ChapterCache} {key : String} {text : ChapterText}

theorem others_of_notMem (h : key ∉ small.keys) : small.others key = small.entries := by
  refine List.filter_eq_self.mpr fun entry hentry => bne_iff_ne.mpr ?_
  rintro rfl
  exact h (List.mem_map_of_mem hentry)

theorem Within.keys (h : Within small large) : small.keys <+ large.keys := h.entries.map _

theorem Within.nodup (h : Within small large) : small.keys.Nodup := h.distinct.sublist h.keys

theorem Within.small_bounded (h : Within small large) : small.size ≤ small.capacity.toNat := by
  rw [h.size]
  exact Nat.min_le_left _ _

theorem Within.others (h : Within small large) (key : String) :
    small.others key <+ large.others key :=
  h.entries.filter _

theorem Within.find? (h : Within small large) (hfind : small.find? key = some text) :
    large.find? key = some text :=
  (find?_eq_some h.distinct).mpr (h.entries.mem (mem_of_find? hfind))

/-- Where the larger cache holds a name that the smaller one does not, the smaller one is full. -/
theorem Within.full (h : Within small large) (hsmall : key ∉ small.keys)
    (hlarge : key ∈ large.keys) :
    small.capacity.toNat < large.size := by
  by_contra hroom
  have hlength : large.keys.length ≤ small.keys.length := by
    rw [length_keys, length_keys, h.size, Nat.min_eq_right (Nat.le_of_not_lt hroom)]
  rw [h.keys.eq_of_length_le hlength] at hsmall
  exact hsmall hlarge

/-- A put drops no more from the larger cache than from the smaller one. -/
theorem Within.overflow (h : Within small large) (key : String) :
    (large.others key).length + 1 - large.capacity.toNat
      ≤ (small.others key).length + 1 - small.capacity.toNat := by
  have hroom := h.room
  have hsize := h.size
  have hbounded := h.bounded
  rw [length_others h.nodup, length_others h.distinct]
  by_cases hlarge : key ∈ large.keys
  · have hpos := size_pos hlarge
    rw [if_pos hlarge]
    omega
  · rw [if_neg hlarge, if_neg fun hsmall => hlarge (h.keys.mem hsmall)]
    omega

/-- The smaller cache has as many entries as the larger one, or as it has room for, also
    after a put. -/
theorem Within.size_put (h : Within small large) (key : String) (text : ChapterText) :
    (small.put key text).size = min small.capacity.toNat (large.put key text).size := by
  have hsize := h.size
  rw [ChapterCache.size_put, ChapterCache.size_put, length_others h.nodup, length_others h.distinct]
  by_cases hsmall : key ∈ small.keys
  · have hlarge := h.keys.mem hsmall
    have hpos := size_pos hsmall
    have hpos' := size_pos hlarge
    have hroom := h.room
    rw [if_pos hsmall, if_pos hlarge]
    omega
  rw [if_neg hsmall]
  by_cases hlarge : key ∈ large.keys
  · have hfull := h.full hsmall hlarge
    have hbounded := h.bounded
    rw [if_pos hlarge]
    omega
  · have hroom := h.room
    rw [if_neg hlarge]
    omega

/-- A put keeps the smaller cache within the larger one. -/
theorem Within.put (h : Within small large) (key : String) (text : ChapterText) :
    Within (small.put key text) (large.put key text) where
  room := h.room
  entries := by
    have htouched := (h.others key).append_right [(key, text)]
    have hdropped := h.overflow key
    unfold ChapterCache.put keepLast
    simp only [List.length_append, List.length_singleton]
    exact (htouched.drop _).trans (List.drop_sublist_drop_left _ hdropped)
  size := h.size_put key text
  bounded := by
    rw [ChapterCache.size_put]
    exact Nat.min_le_left _ _
  distinct := nodup_put h.distinct key text

/-- A look-up that only the larger cache can answer rearranges nothing that the smaller one
    holds. -/
theorem Within.get_larger (h : Within small large) (hsmall : key ∉ small.keys)
    (hlarge : large.find? key = some text) : Within small (large.get key).2 where
  room := by
    rw [capacity_get]
    exact h.room
  entries := by
    rw [get_of_find? hlarge, ← others_of_notMem hsmall]
    exact (h.others key).trans (List.sublist_append_left _ _)
  size := by
    rw [h.size, size_get h.distinct hlarge]
  bounded := by
    rw [size_get h.distinct hlarge, capacity_get]
    exact h.bounded
  distinct := by
    rw [get_eq_put h.distinct h.bounded hlarge]
    exact nodup_put h.distinct key text

/-- So does a look-up, which both answer or the larger one alone. -/
theorem Within.get (h : Within small large) (key : String) :
    Within (small.get key).2 (large.get key).2 := by
  cases hsmall : small.find? key with
  | some text =>
    have hlarge := h.find? hsmall
    rw [get_eq_put h.nodup h.small_bounded hsmall, get_eq_put h.distinct h.bounded hlarge]
    exact h.put key text
  | none =>
    rw [get_of_miss hsmall]
    cases hlarge : large.find? key with
    | none =>
      rw [get_of_miss hlarge]
      exact h
    | some text => exact h.get_larger (find?_eq_none.mp hsmall) hlarge

/-- Every use leaves the smaller cache within the larger one. -/
theorem Within.serve (h : Within small large) (use : Use) :
    Within (small.serve use).2 (large.serve use).2 := by
  cases use with
  | get key => exact h.get key
  | put key text => exact h.put key text
  | test key => exact h

/-! ### The same uses of both -/

theorem Within.after (h : Within small large) (uses : List Use) :
    Within (small.after uses) (large.after uses) := by
  induction uses generalizing small large with
  | nil => exact h
  | cons use uses ih => exact ih (h.serve use)

/-- The answer finds a text only if the other one finds the same. -/
def Answer.FoundBy (a b : Answer) : Prop := ∀ text, a = .found (some text) → b = .found (some text)

/-- What the smaller cache finds, the larger one finds as well. -/
theorem Within.answer (h : Within small large) (use : Use) :
    (small.serve use).1.FoundBy (large.serve use).1 := by
  intro text hfound
  cases use with
  | get key =>
    cases hsmall : small.find? key with
    | none =>
      rw [serve_get_of_miss hsmall] at hfound
      cases hfound
    | some text' =>
      rw [serve_get_of_find? hsmall] at hfound
      rw [serve_get_of_find? (h.find? hsmall)]
      exact hfound
  | put key text' => cases hfound
  | test key => cases hfound

theorem Within.history (h : Within small large) (uses : List Use) :
    List.Forall₂ (fun a b => a.1 = b.1 ∧ a.2.FoundBy b.2) (small.history uses)
      (large.history uses) := by
  induction uses generalizing small large with
  | nil => exact .nil
  | cons use uses ih => exact .cons ⟨rfl, h.answer use⟩ (ih (h.serve use))

end Within

theorem within_empty {m M : Nat} (h : m ≤ M) : Within (empty m) (empty M) where
  room := ⟨Int.natCast_nonneg m, Int.ofNat_le.mpr h⟩
  entries := List.Sublist.refl []
  size := (Nat.min_zero _).symm
  bounded := Nat.zero_le _
  distinct := List.nodup_nil

/-- After the same uses the larger of two caches that were empty holds all that the smaller one
    holds, in the same order, and so it has been all the while. -/
theorem larger_keeps_hits {m M : Nat} (h : m ≤ M) (uses : List Use) :
    (∀ done, done <+: uses →
      (∀ key text, ((empty m).after done).find? key = some text →
        ((empty M).after done).find? key = some text)
      ∧ ((empty m).after done).keys <+ ((empty M).after done).keys)
    ∧ List.Forall₂ (fun a b => a.1 = b.1 ∧ a.2.FoundBy b.2) ((empty m).history uses)
      ((empty M).history uses) := by
  refine ⟨fun done _ => ?_, (within_empty h).history uses⟩
  have hwithin := (within_empty h).after done
  exact ⟨fun key text => hwithin.find?, hwithin.keys⟩

/-- A look-up that one chapter of room is too little for rearranges the larger cache alone. -/
theorem one_within_two :
    let uses : List Use :=
      [.put "a" ⟨"A", "x"⟩, .put "b" ⟨"B", "y"⟩, .get "a", .put "c" ⟨"C", "z"⟩]
    1 ≤ 2 ∧ ((empty 1).after uses).entries = [("c", ⟨"C", "z"⟩)]
      ∧ ((empty 2).after uses).entries = [("a", ⟨"A", "x"⟩), ("c", ⟨"C", "z"⟩)]
      ∧ ((empty 2).after uses).find? "c" = some ⟨"C", "z"⟩
      ∧ ((empty 1).after uses).keys <+ ((empty 2).after uses).keys := by
  intro uses
  have hkept :=
    (larger_keeps_hits (m := 1) (M := 2) (by decide) uses).1 uses (List.prefix_refl uses)
  exact ⟨by decide, by decide, by decide, hkept.1 "c" ⟨"C", "z"⟩ (by decide), hkept.2⟩

end Gleaner.ChapterCache
