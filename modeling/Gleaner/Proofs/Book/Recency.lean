/-
  Gleaner/Proofs/Book/Recency.lean
  ================================
  **The chapters used last.**  A cache is used by looking a name up, by putting a text under
  a name and by testing whether a name is held.  A name is touched by every put and by every
  look-up that finds a text.  A cache that was empty holds the names touched last, in the
  order of their last touch, as many as there is room for, each with the text that was put
  last under it (`holds_last_touched`).
-/
import Gleaner.Proofs.Book.Cache
import Mathlib.Data.List.Dedup
import Mathlib.Data.List.DropRight

namespace Gleaner.ChapterCache

/-! ### Uses and their answers -/

inductive Use where
  | get (key : String)
  | put (key : String) (text : ChapterText)
  | test (key : String)
deriving DecidableEq, Repr

inductive Answer where
  | found (text : Option ChapterText)
  | stored (result : Except Fault Unit)
  | held (isHeld : Bool)
deriving Repr

def serve (c : ChapterCache) : Use → Answer × ChapterCache
  | .get key => (.found (c.get key).1, (c.get key).2)
  | .put key text => (.stored (c.store key text).1, (c.store key text).2)
  | .test key => (.held (c.contains key), c)

def after (c : ChapterCache) (uses : List Use) : ChapterCache :=
  uses.foldl (fun c use => (c.serve use).2) c

def history (c : ChapterCache) : List Use → List (Use × Answer)
  | [] => []
  | use :: more => (use, (c.serve use).1) :: (c.serve use).2.history more

/-- The name that is touched: by a put, and by a look-up that finds a text. -/
def touched? : Use × Answer → Option String
  | (.put key _, _) => some key
  | (.get key, .found (some _)) => some key
  | _ => none

def touches (history : List (Use × Answer)) : List String := history.filterMap touched?

def textFor? (key : String) : Use → Option ChapterText
  | .put name text => if name = key then some text else none
  | _ => none

def lastPut (key : String) (uses : List Use) : Option ChapterText :=
  uses.reverse.findSome? (textFor? key)

section Uses

variable {c : ChapterCache} {key : String} {uses : List Use} {use : Use}

theorem after_concat (c : ChapterCache) (uses : List Use) (use : Use) :
    c.after (uses ++ [use]) = ((c.after uses).serve use).2 := by
  simp [after]

theorem history_concat (c : ChapterCache) (uses : List Use) (use : Use) :
    c.history (uses ++ [use]) = c.history uses ++ [(use, ((c.after uses).serve use).1)] := by
  induction uses generalizing c with
  | nil => rfl
  | cons first more ih => exact congrArg _ (ih (c.serve first).2)

theorem lastPut_concat (key : String) (uses : List Use) (use : Use) :
    lastPut key (uses ++ [use]) = (textFor? key use).or (lastPut key uses) := by
  simp [lastPut, List.findSome?_cons]
  cases textFor? key use <;> rfl

end Uses

/-! ### Names in the order of their last touch -/

section Names

variable {names : List String} {key : String} {m : Nat}

/-- The name touched last stands last, and only there. -/
theorem dedup_concat (names : List String) (key : String) :
    (names ++ [key]).dedup = names.dedup.erase key ++ [key] := by
  induction names with
  | nil => rfl
  | cons name names ih =>
    rw [List.cons_append]
    by_cases hmem : name ∈ names
    · rw [List.dedup_cons_of_mem (List.mem_append_left _ hmem), List.dedup_cons_of_mem hmem, ih]
    rw [List.dedup_cons_of_notMem hmem]
    by_cases hkey : name = key
    · subst hkey
      rw [List.dedup_cons_of_mem (by simp), ih, List.erase_cons_head,
        List.erase_of_not_mem (by simpa using hmem)]
    · rw [List.dedup_cons_of_notMem (by simp [hmem, hkey]), ih,
        List.erase_cons_tail (by simpa using hkey), List.cons_append]

theorem rtake_append_of_le {front back : List String} (h : m ≤ back.length) :
    (front ++ back).rtake m = back.rtake m := by
  rw [List.rtake_eq_reverse_take_reverse, List.rtake_eq_reverse_take_reverse, List.reverse_append,
    List.take_append_of_le_length (by simpa using h)]

theorem rtake_of_le (h : names.length ≤ m) : names.rtake m = names := by
  simp [List.rtake, Nat.sub_eq_zero_of_le h]

/-- Touching a name among the last ones gives the last ones after the touch. -/
theorem rtake_touch (h : names.Nodup) (key : String) (m : Nat) :
    (names.erase key ++ [key]).rtake m = ((names.rtake m).erase key ++ [key]).rtake m := by
  by_cases hfew : names.length ≤ m
  · rw [rtake_of_le hfew]
  -- there are `m` last names, and those before them are too old with or without the touch
  have hlength : (names.rtake m).length = m := by
    simp [List.rtake]
    omega
  have hsplit : names = names.take (names.length - m) ++ names.rtake m :=
    (List.take_append_drop _ _).symm
  have herase : ∃ front, names.erase key = front ++ (names.rtake m).erase key := by
    generalize names.take (names.length - m) = front at hsplit
    by_cases hfront : key ∈ front
    · have hback : key ∉ names.rtake m := by
        rw [hsplit] at h
        exact List.disjoint_of_nodup_append h hfront
      refine ⟨front.erase key, ?_⟩
      rw [List.erase_of_not_mem hback]
      conv_lhs => rw [hsplit]
      exact List.erase_append_left _ hfront
    · refine ⟨front, ?_⟩
      conv_lhs => rw [hsplit]
      exact List.erase_append_right _ hfront
  obtain ⟨front, hfront⟩ := herase
  rw [hfront, List.append_assoc, rtake_append_of_le]
  rw [List.length_append, List.length_singleton]
  have hone := List.le_length_erase (a := key) (l := names.rtake m)
  omega

/-- The names after a touch, if there is room for all but the first one at most. -/
theorem rtake_of_le_succ (h : names.length ≤ m + 1) :
    names.rtake m = if names.length ≤ m then names else names.tail := by
  by_cases hfew : names.length ≤ m
  · rw [if_pos hfew, rtake_of_le hfew]
  · have hone : names.length - m = 1 := by omega
    rw [if_neg hfew, List.rtake, hone, List.drop_one]

end Names

/-! ### What one use does -/

section Serve

variable {c : ChapterCache} {key : String} {text : ChapterText}

theorem length_keys (c : ChapterCache) : c.keys.length = c.size := List.length_map _

theorem size_pos (h : key ∈ c.keys) : 0 < c.size := length_keys c ▸ List.length_pos_of_mem h

theorem mem_keys_of_find? (h : c.find? key = some text) : key ∈ c.keys :=
  List.mem_map_of_mem (mem_of_find? h)

theorem find?_eq_some (h : c.keys.Nodup) : c.find? key = some text ↔ (key, text) ∈ c.entries := by
  refine ⟨mem_of_find?, fun hmem => ?_⟩
  obtain ⟨other, hfind⟩ : ∃ other, c.find? key = some other :=
    find?_of_contains (List.contains_iff_mem.mpr (List.mem_map_of_mem hmem))
  have hsame := List.inj_on_of_nodup_map h (mem_of_find? hfind) hmem rfl
  rw [hfind, (Prod.mk.inj hsame).2]

theorem find?_eq_none : c.find? key = none ↔ key ∉ c.keys := by
  unfold find? keys
  rw [Option.map_eq_none_iff, List.find?_eq_none, List.mem_map]
  constructor
  · rintro hnone ⟨entry, hentry, hname⟩
    exact hnone entry hentry (beq_iff_eq.mpr hname)
  · intro hnone entry hentry hname
    exact hnone ⟨entry, hentry, beq_iff_eq.mp hname⟩

/-- Setting a name last leaves the names of the others as they are. -/
theorem keys_touch (h : c.keys.Nodup) (key : String) (text : ChapterText) :
    (c.others key ++ [(key, text)]).map (·.1) = c.keys.erase key ++ [key] := by
  rw [List.map_append, h.erase_eq_filter, keys, List.filter_map]
  rfl

theorem nodup_touch (h : c.keys.Nodup) (key : String) : (c.keys.erase key ++ [key]).Nodup := by
  rw [← List.concat_eq_append]
  exact (h.erase key).concat h.not_mem_erase

theorem length_others (h : c.keys.Nodup) (key : String) :
    (c.others key).length = if key ∈ c.keys then c.size - 1 else c.size := by
  have hlength := congrArg List.length (keys_touch h key default)
  rw [List.length_map, List.length_append, List.length_append, List.length_erase,
    length_keys] at hlength
  exact Nat.add_right_cancel hlength

theorem keys_put (h : c.keys.Nodup) (key : String) (text : ChapterText) :
    (c.put key text).keys = (c.keys.erase key ++ [key]).rtake c.capacity.toNat := by
  rw [← keys_touch h key text, List.rtake, ← List.map_drop, List.length_map]
  rfl

theorem size_put (c : ChapterCache) (key : String) (text : ChapterText) :
    (c.put key text).size = min c.capacity.toNat ((c.others key).length + 1) := by
  rw [size, put, keepLast, List.length_drop, List.length_append, List.length_singleton]
  omega

theorem nodup_put (h : c.keys.Nodup) (key : String) (text : ChapterText) :
    (c.put key text).keys.Nodup := by
  rw [keys_put h]
  exact (nodup_touch h key).sublist (List.drop_sublist _ _)

theorem size_get (h : c.keys.Nodup) (hfind : c.find? key = some text) :
    (c.get key).2.size = c.size := by
  have hmem := mem_keys_of_find? hfind
  rw [get_of_find? hfind, size, List.length_append, List.length_singleton, length_others h,
    if_pos hmem]
  exact Nat.sub_add_cancel (size_pos hmem)

/-- Looking up a text that is held is putting it once more. -/
theorem get_eq_put (h : c.keys.Nodup) (hroom : c.size ≤ c.capacity.toNat)
    (hfind : c.find? key = some text) : (c.get key).2 = c.put key text := by
  have hsize := size_get h hfind
  rw [get_of_find? hfind] at hsize ⊢
  have hnone : (c.others key ++ [(key, text)]).length - c.capacity.toNat = 0 :=
    Nat.sub_eq_zero_of_le (hsize.trans_le hroom)
  rw [put, keepLast, hnone, List.drop_zero]

theorem serve_get_of_find? (h : c.find? key = some text) :
    c.serve (.get key) = (.found (some text), (c.get key).2) := by
  rw [serve, get_of_find? h]

theorem serve_get_of_miss (h : c.find? key = none) : c.serve (.get key) = (.found none, c) := by
  rw [serve, get_of_miss h]

theorem serve_put_of_room (h : 0 ≤ c.capacity) (key : String) (text : ChapterText) :
    c.serve (.put key text) = (.stored (.ok ()), c.put key text) := by
  rw [serve, store, if_neg (Int.not_lt.mpr h)]

theorem serve_test (c : ChapterCache) (key : String) :
    c.serve (.test key) = (.held (decide (key ∈ c.keys)), c) := by
  rw [serve, contains, List.contains_eq_mem]

theorem touches_of_none {use : Use × Answer} (h : touched? use = none) : touches [use] = [] := by
  rw [touches, List.filterMap_cons_none h, List.filterMap_nil]

end Serve

/-! ### A history of uses -/

/-- What a cache of `m` chapters holds after some uses by which these names were touched. -/
structure Keeps (m : Nat) (uses : List Use) (touched : List String) (c : ChapterCache) : Prop where
  capacity : c.capacity = m
  order : c.keys = touched.dedup.rtake m
  texts : ∀ entry ∈ c.entries, lastPut entry.1 uses = some entry.2

section Keeps

variable {m : Nat} {uses : List Use} {touched : List String} {c : ChapterCache}

theorem keeps_empty (m : Nat) : Keeps m [] [] (empty m) where
  capacity := rfl
  order := by rw [List.dedup_nil, List.rtake_nil]; rfl
  texts := fun _ hentry => nomatch hentry

theorem Keeps.nodup (h : Keeps m uses touched c) : c.keys.Nodup := by
  rw [h.order]
  exact (List.nodup_dedup touched).sublist (List.drop_sublist _ _)

theorem Keeps.size_eq (h : Keeps m uses touched c) : c.size = min m touched.dedup.length := by
  rw [← length_keys, h.order, List.rtake, List.length_drop]
  omega

theorem Keeps.size_le (h : Keeps m uses touched c) : c.size ≤ c.capacity.toNat := by
  rw [h.size_eq, h.capacity]
  exact Nat.min_le_left _ _

/-- After a put the names held are those touched last, with the name of the put. -/
theorem Keeps.put (h : Keeps m uses touched c) (key : String) (text : ChapterText) :
    Keeps m (uses ++ [.put key text]) (touched ++ [key]) (c.put key text) where
  capacity := h.capacity
  order := by
    rw [keys_put h.nodup, h.capacity, Int.toNat_natCast, dedup_concat,
      rtake_touch (List.nodup_dedup touched), h.order]
  texts := by
    intro entry hentry
    rw [lastPut_concat]
    rcases List.mem_append.mp (List.mem_of_mem_drop hentry) with hother | hnew
    · have hname : entry.1 ≠ key := bne_iff_ne.mp (List.mem_filter.mp hother).2
      rw [textFor?, if_neg hname.symm]
      exact h.texts entry (mem_others hother)
    · rw [List.mem_singleton.mp hnew, textFor?, if_pos rfl]
      rfl

/-- A look-up that finds a text touches its name. -/
theorem Keeps.get_of_find? {key : String} {text : ChapterText} (h : Keeps m uses touched c)
    (hfind : c.find? key = some text) :
    Keeps m (uses ++ [.get key]) (touched ++ [key]) (c.get key).2 where
  capacity := by rw [capacity_get, h.capacity]
  order := by
    rw [get_eq_put h.nodup h.size_le hfind]
    exact (h.put key text).order
  texts := by
    intro entry hentry
    rw [lastPut_concat]
    exact h.texts entry (mem_get hentry)

/-- A use that touches nothing leaves the cache as it is. -/
theorem Keeps.untouched {use : Use} (h : Keeps m uses touched c)
    (hnone : ∀ key, textFor? key use = none) :
    Keeps m (uses ++ [use]) touched c where
  capacity := h.capacity
  order := h.order
  texts := by
    intro entry hentry
    rw [lastPut_concat, hnone]
    exact h.texts entry hentry

/-- One use keeps the account of what a cache holds; the cases are its kinds of use. -/
theorem Keeps.serve (h : Keeps m uses touched c) (use : Use) :
    Keeps m (uses ++ [use]) (touched ++ touches [(use, (c.serve use).1)]) (c.serve use).2 := by
  cases use with
  | get key =>
    cases hfind : c.find? key with
    | none =>
      rw [serve_get_of_miss hfind, touches_of_none rfl, List.append_nil]
      exact h.untouched fun _ => rfl
    | some text =>
      rw [serve_get_of_find? hfind]
      exact h.get_of_find? hfind
  | put key text =>
    have hroom : 0 ≤ c.capacity := by
      rw [h.capacity]
      exact Int.natCast_nonneg m
    rw [serve_put_of_room hroom]
    exact h.put key text
  | test key =>
    rw [serve_test, touches_of_none rfl, List.append_nil]
    exact h.untouched fun _ => rfl

theorem keeps_after (m : Nat) (uses : List Use) :
    Keeps m uses (touches ((empty m).history uses)) ((empty m).after uses) := by
  induction uses using List.reverseRecOn with
  | nil => exact keeps_empty m
  | append_singleton uses use ih =>
    rw [after_concat, history_concat, touches, List.filterMap_append]
    exact ih.serve use

end Keeps

/-- What a cache of `m` chapters holds, and what it does next, after some uses by which these
    names were touched. -/
structure HoldsLast (m : Nat) (uses : List Use) (touched : List String) (c : ChapterCache) :
    Prop where
  order : c.keys = touched.dedup.rtake m
  size : c.size = min m touched.dedup.length
  distinct : c.keys.Nodup
  bounded : c.size ≤ m
  hit : ∀ key ∈ c.keys, ∃ text, lastPut key uses = some text
    ∧ (c.serve (.get key)).1 = .found (some text)
  miss : ∀ key ∉ c.keys, c.serve (.get key) = (.found none, c)
  test : ∀ key, c.serve (.test key) = (.held (decide (key ∈ c.keys)), c)
  /-- A put gives way with the one name that was touched longest ago, if there is no room. -/
  put : ∀ key text, (c.serve (.put key text)).1 = .stored (.ok ())
    ∧ (c.serve (.put key text)).2.keys =
      let names := c.keys.erase key ++ [key]
      if names.length ≤ m then names else names.tail

/-- A cache that was empty holds the names touched last, in the order of their last touch. -/
theorem holds_last_touched (m : Nat) (uses : List Use) :
    HoldsLast m uses (touches ((empty m).history uses)) ((empty m).after uses) := by
  have h := keeps_after m uses
  generalize touches ((empty m).history uses) = touched at h
  generalize (empty m).after uses = c at h
  refine ⟨h.order, h.size_eq, h.nodup, ?_, ?_, ?_, ?_, ?_⟩
  · rw [h.size_eq]
    exact Nat.min_le_left _ _
  · intro key hkey
    obtain ⟨text, hfind⟩ := find?_of_contains (List.contains_iff_mem.mpr hkey)
    refine ⟨text, h.texts _ (mem_of_find? hfind), ?_⟩
    rw [serve_get_of_find? hfind]
  · intro key hkey
    exact serve_get_of_miss (find?_eq_none.mpr hkey)
  · exact serve_test c
  · intro key text
    have hroom : 0 ≤ c.capacity := by
      rw [h.capacity]
      exact Int.natCast_nonneg m
    have hlength : (c.keys.erase key ++ [key]).length ≤ m + 1 := by
      rw [List.length_append, List.length_singleton, Nat.add_le_add_iff_right]
      calc (c.keys.erase key).length ≤ c.keys.length := List.length_erase_le
        _ = min m touched.dedup.length := by rw [length_keys, h.size_eq]
        _ ≤ m := Nat.min_le_left _ _
    rw [serve_put_of_room hroom]
    refine ⟨rfl, ?_⟩
    rw [keys_put h.nodup, h.capacity, Int.toNat_natCast, rtake_of_le_succ hlength]

/-- The second chapter gives way, since the first one has been looked up after it. -/
example :
    ((empty 2).after [.put "a" ⟨"A", "x"⟩, .put "b" ⟨"B", "y"⟩, .get "a", .put "c" ⟨"C", "z"⟩]).keys
    = ["a", "c"] := by decide

end Gleaner.ChapterCache
