/-
  Gleaner/Proofs/Book/Cache.lean
  ==============================
  **What a cache holds.**  Looking up a name adds nothing to a cache, and holding a text adds
  that text at most.
-/
import Gleaner.Book.Cache

namespace Gleaner.ChapterCache

variable {c : ChapterCache} {key : String} {text : ChapterText} {entry : String × ChapterText}

theorem mem_of_find? (h : c.find? key = some text) : (key, text) ∈ c.entries := by
  unfold find? at h
  obtain ⟨⟨name, text'⟩, hentry, htext⟩ := Option.map_eq_some_iff.mp h
  have hname : name = key := by simpa using List.find?_some hentry
  obtain rfl : text' = text := htext
  rw [← hname]
  exact List.mem_of_find?_eq_some hentry

theorem find?_of_contains (h : c.contains key = true) : ∃ text, c.find? key = some text := by
  obtain ⟨⟨name, text⟩, hentry, hname⟩ := List.mem_map.mp (List.contains_iff_mem.mp h)
  rw [← Option.isSome_iff_exists]
  unfold find?
  rw [Option.isSome_map, List.find?_isSome]
  exact ⟨_, hentry, by simpa using hname⟩

theorem mem_others (h : entry ∈ c.others key) : entry ∈ c.entries :=
  (List.mem_filter.mp h).1

theorem get_of_find? (h : c.find? key = some text) :
    c.get key = (some text, { c with entries := c.others key ++ [(key, text)] }) := by
  unfold get
  rw [h]

theorem get_of_miss (h : c.find? key = none) : c.get key = (none, c) := by
  unfold get
  rw [h]

/-- The entry that is looked up was held before. -/
theorem mem_get (h : entry ∈ (c.get key).2.entries) : entry ∈ c.entries := by
  cases hfind : c.find? key with
  | none =>
    rw [get_of_miss hfind] at h
    exact h
  | some text =>
    rw [get_of_find? hfind] at h
    rcases List.mem_append.mp h with h | h
    · exact mem_others h
    · rw [List.mem_singleton.mp h]
      exact mem_of_find? hfind

theorem capacity_get (c : ChapterCache) (key : String) : (c.get key).2.capacity = c.capacity := by
  unfold get
  split <;> rfl

/-- Entries give way, and the only new one is the text that is put. -/
theorem mem_put (h : entry ∈ (c.put key text).entries) :
    entry = (key, text) ∨ entry ∈ c.entries := by
  rcases List.mem_append.mp (List.mem_of_mem_drop h) with h | h
  · exact .inr (mem_others h)
  · exact .inl (List.mem_singleton.mp h)

theorem capacity_put (c : ChapterCache) (key : String) (text : ChapterText) :
    (c.put key text).capacity = c.capacity := rfl

end Gleaner.ChapterCache
