/-
  Gleaner/Proofs/Source/Listing.lean
  ==================================
  **Explore pages as they are written.**  Entries are listed in cells of a text, with line ends or
  pairs of ampersands between the cells and blanks or blank cells wherever one likes (`Lists`), or
  as an array of objects.  Either way they are read back as they were, one after another
  (`listings_read_back`).  A few equations say how a text of cells is read from its front: blanks
  and separators there do not count, and an entry there is the first one.
-/
import Gleaner.Proofs.Json.Printed
import Gleaner.Proofs.Json.Read
import Gleaner.Proofs.Source.RoundTrip
import Gleaner.Proofs.Text.Trim
import Gleaner.Source.Explore

namespace Gleaner

namespace Source

open Text (isBlank trimChars)

variable {e : String × String} {entries : List (String × String)} {s b w rest : List Char}

/-! ### Entries -/

/-- A title and an address as they are listed: trimmed, and neither of them empty. -/
structure IsEntry (e : String × String) : Prop where
  titleTrimmed : Text.trim e.1 = e.1
  title : e.1 ≠ ""
  addressTrimmed : Text.trim e.2 = e.2
  address : e.2 ≠ ""

/-- Title and address can be written in one cell: there is no separator in them, nor an ampersand
    at the end that could belong to one, and the first pair of colons is the one after the
    title. -/
structure FitsCell (e : String × String) : Prop where
  noLineEnd : '\n' ∉ e.1.toList ∧ '\n' ∉ e.2.toList
  noPair : ¬ ['&', '&'] <:+: e.1.toList ∧ ¬ ['&', '&'] <:+: e.2.toList
  addressEnd : e.2.toList.getLast? ≠ some '&'
  noColons : ¬ [':', ':'] <:+: e.1.toList
  titleEnd : e.1.toList.getLast? ≠ some ':'

def line (e : String × String) : List Char := e.1.toList ++ ':' :: ':' :: e.2.toList

theorem trimChars_toList {t : String} (h : Text.trim t = t) : trimChars t.toList = t.toList := by
  rw [← Text.toList_trim, h]

theorem entryOfPart?_of_trimmed {p q : List Char} (h : trimChars p = trimChars q) :
    entryOfPart? p = entryOfPart? q := by
  rw [entryOfPart?, entryOfPart?, h]

/-- The line of an entry has no blanks at its ends. -/
theorem IsEntry.trimChars_line (h : IsEntry e) : trimChars (line e) = line e := by
  have htitle := (Text.dropWhile_of_trimmed (trimChars_toList h.titleTrimmed)).1
  have haddress := (Text.dropWhile_of_trimmed (trimChars_toList h.addressTrimmed)).2
  have hne : e.2.toList ≠ [] := by simpa using h.address
  have hlast : (':' :: e.2.toList).rdropWhile isBlank = ':' :: e.2.toList := by
    rw [List.rdropWhile_eq_self_iff] at haddress ⊢
    intro _
    rw [List.getLast_cons hne]
    exact haddress hne
  rw [line, trimChars, Text.trimBy_append_cons (by decide), htitle, hlast]

/-- A title starts with a character that is no blank. -/
theorem IsEntry.title_front (h : IsEntry e) :
    ∃ c more, e.1.toList = c :: more ∧ isBlank c = false := by
  obtain ⟨c, more, htitle⟩ := List.exists_cons_of_ne_nil (by simpa using h.title : e.1.toList ≠ [])
  have hsame := (Text.dropWhile_of_trimmed (trimChars_toList h.titleTrimmed)).1
  rw [List.dropWhile_eq_self_iff, htitle] at hsame
  exact ⟨c, more, htitle, by simpa using hsame⟩

/-- The line of an entry is read back as that entry. -/
theorem entryOfPart?_line (h : IsEntry e) (hfits : FitsCell e) :
    entryOfPart? (line e) = some e := by
  have hcut := Text.cutAt?_colons hfits.noColons hfits.titleEnd e.2.toList
  have htitle : e.1.toList.isEmpty = false := by simpa using h.title
  have haddress : e.2.toList.isEmpty = false := by simpa using h.address
  have hline : (line e).isEmpty = false := by simp [line]
  rw [entryOfPart?, h.trimChars_line]
  dsimp only
  rw [if_neg (by simp [hline]), line, hcut]
  simp [trimChars_toList h.titleTrimmed, trimChars_toList h.addressTrimmed, htitle, haddress]

/-! ### Cells from the front -/

theorem splitEntries_cons {c : Char} (hend : c ≠ '\n') (hpair : c = '&' → s.head? ≠ some '&')
    (part : List Char) :
    splitEntries (c :: s) part = splitEntries s (c :: part) :=
  splitEntries.eq_4 part c s hend fun r hc hs => hpair hc (by rw [hs]; rfl)

/-- What was read of the first cell stands before the rest of it. -/
theorem splitEntries_eq (s part : List Char) :
    splitEntries s part = (splitEntries s []).modifyHead (part.reverse ++ ·) := by
  induction s generalizing part with
  | nil => simp [splitEntries]
  | cons c s ih =>
    by_cases hend : c = '\n'
    · subst hend
      simp [splitEntries]
    by_cases hpair : c = '&' ∧ s.head? = some '&'
    · obtain ⟨rfl, hs⟩ := hpair
      obtain ⟨r, rfl⟩ := List.head?_eq_some_iff.mp hs
      simp [splitEntries]
    · have hnext : c = '&' → s.head? ≠ some '&' := fun hc hs => hpair ⟨hc, hs⟩
      rw [splitEntries_cons hend hnext, splitEntries_cons hend hnext, ih (c :: part), ih [c]]
      simp [Function.comp_def]

/-- The part that is read goes on to the end of a text without separators. -/
theorem splitEntries_append (hend : '\n' ∉ w) (hpair : ¬ ['&', '&'] <:+: w)
    (hnext : w.getLast? = some '&' → s.head? ≠ some '&') (part : List Char) :
    splitEntries (w ++ s) part = splitEntries s (w.reverse ++ part) := by
  induction w generalizing part with
  | nil => rfl
  | cons c w ih =>
    have hc : c ≠ '\n' := fun h => hend (h ▸ List.mem_cons_self)
    have hfirst : c = '&' → (w ++ s).head? ≠ some '&' := by
      rintro rfl hhead
      cases w with
      | nil => exact hnext rfl hhead
      | cons d w =>
        obtain rfl : d = '&' := by simpa using hhead
        exact hpair ⟨[], w, rfl⟩
    have hmore : w.getLast? = some '&' → s.head? ≠ some '&' := by
      intro hlast
      cases w with
      | nil => cases hlast
      | cons d w => exact hnext (by simpa using hlast)
    rw [List.cons_append, splitEntries_cons hc hfirst,
      ih (fun h => hend (List.mem_cons_of_mem c h))
        (fun h => hpair (h.trans (List.suffix_cons c w).isInfix)) hmore]
    simp

def IsSeparator (sep : List Char) : Prop := sep = ['\n'] ∨ sep = ['&', '&']

theorem entriesOfLines_separator {sep : List Char} (h : IsSeparator sep) (s : List Char) :
    entriesOfLines (sep ++ s) = entriesOfLines s := by
  rcases h with rfl | rfl <;> rfl

/-- Blanks at the front do not count. -/
theorem entriesOfLines_blank (hb : ∀ c ∈ b, isBlank c = true) (s : List Char) :
    entriesOfLines (b ++ s) = entriesOfLines s := by
  induction b with
  | nil => rfl
  | cons c b ih =>
    rw [← ih fun d hd => hb d (List.mem_cons_of_mem c hd), List.cons_append]
    have hc := hb c List.mem_cons_self
    by_cases hend : c = '\n'
    · subst hend
      rfl
    · have hnext : c = '&' → (b ++ s).head? ≠ some '&' := by
        rintro rfl
        exact absurd hc (by decide)
      rw [entriesOfLines, splitEntries_cons hend hnext, splitEntries_eq, entriesOfLines]
      rcases splitEntries (b ++ s) [] with _ | ⟨p, ps⟩
      · rfl
      · have hsame : entryOfPart? (c :: p) = entryOfPart? p :=
          entryOfPart?_of_trimmed (Text.trimBy_blank_append (b := [c]) (by simpa using hc) p)
        simp [List.filterMap_cons, hsame]

def Closes (rest : List Char) : Prop := rest = [] ∨ ∃ sep s, IsSeparator sep ∧ rest = sep ++ s

/-- Blanks go on with the cell that is read, as far as they are on one line, and what follows is
    read from a new cell on. -/
theorem splitEntries_blank (hb : ∀ c ∈ b, isBlank c = true) (hrest : Closes rest) :
    ∃ p cells, splitEntries (b ++ rest) [] = p :: cells ∧ (∀ c ∈ p, isBlank c = true)
      ∧ cells.filterMap entryOfPart? = entriesOfLines rest := by
  induction b with
  | nil =>
    rcases hrest with rfl | ⟨sep, s, rfl | rfl, rfl⟩
    · exact ⟨[], [], rfl, by simp, rfl⟩
    · exact ⟨[], splitEntries s [], rfl, by simp, rfl⟩
    · exact ⟨[], splitEntries s [], rfl, by simp, rfl⟩
  | cons c b ih =>
    have hc := hb c List.mem_cons_self
    have hmore := fun d hd => hb d (List.mem_cons_of_mem c hd)
    by_cases hend : c = '\n'
    · subst hend
      exact ⟨[], splitEntries (b ++ rest) [], rfl, by simp, entriesOfLines_blank hmore rest⟩
    · have hnext : c = '&' → (b ++ rest).head? ≠ some '&' := by
        rintro rfl
        exact absurd hc (by decide)
      obtain ⟨p, cells, hcells, hp, hread⟩ := ih hmore
      refine ⟨c :: p, cells, ?_, List.forall_mem_cons.mpr ⟨hc, hp⟩, hread⟩
      rw [List.cons_append, splitEntries_cons hend hnext, splitEntries_eq, hcells]
      rfl

/-- An entry at the front is the first one, whatever blanks follow it in its cell. -/
theorem entriesOfLines_line (h : IsEntry e) (hfits : FitsCell e) (hb : ∀ c ∈ b, isBlank c = true)
    (hrest : Closes rest) : entriesOfLines (line e ++ (b ++ rest)) = e :: entriesOfLines rest := by
  obtain ⟨p, cells, hcells, hp, hread⟩ := splitEntries_blank hb hrest
  have hsplit : splitEntries (line e ++ (b ++ rest)) [] = (line e ++ p) :: cells := by
    rw [line, List.append_assoc, splitEntries_append hfits.noLineEnd.1 hfits.noPair.1 (by simp),
      List.cons_append, splitEntries_cons (by decide) (by simp), List.cons_append,
      splitEntries_cons (by decide) (by simp),
      splitEntries_append hfits.noLineEnd.2 hfits.noPair.2
        (fun hlast => absurd hlast hfits.addressEnd), splitEntries_eq, hcells]
    simp
  have hentry : entryOfPart? (line e ++ p) = some e := by
    rw [entryOfPart?_of_trimmed (Text.trimBy_append_blank hp (line e)), entryOfPart?_line h hfits]
  rw [entriesOfLines, hsplit, List.filterMap_cons_some hentry, hread]

/-- Blanks at the end do not count. -/
theorem entriesOfLines_append_blank (hb : ∀ c ∈ b, isBlank c = true) (s : List Char) :
    entriesOfLines (s ++ b) = entriesOfLines s := by
  -- what was read of a cell before makes no difference
  have hall : ∀ part, (splitEntries (s ++ b) part).filterMap entryOfPart?
      = (splitEntries s part).filterMap entryOfPart? := by
    intro part
    fun_induction splitEntries s part with
    | case1 part =>
      have hnone : Closes [] := .inl rfl
      obtain ⟨p, cells, hcells, hp, hread⟩ := splitEntries_blank hb hnone
      have hsame : entryOfPart? (part.reverse ++ p) = entryOfPart? part.reverse :=
        entryOfPart?_of_trimmed (Text.trimBy_append_blank hp _)
      rw [List.append_nil] at hcells
      rw [List.nil_append, splitEntries_eq, hcells, List.modifyHead_cons, List.filterMap_cons,
        hsame, hread]
      rfl
    | case2 s part ih =>
      rw [List.cons_append, splitEntries, List.filterMap_cons, List.filterMap_cons, ih]
    | case3 s part ih =>
      rw [List.cons_append, List.cons_append, splitEntries, List.filterMap_cons,
        List.filterMap_cons, ih]
    | case4 c s part hend hpair ih =>
      have hnext : c = '&' → (s ++ b).head? ≠ some '&' := by
        intro hc hhead
        cases s with
        | nil =>
          obtain ⟨r, rfl⟩ := List.head?_eq_some_iff.mp hhead
          exact absurd (hb '&' List.mem_cons_self) (by decide)
        | cons d s =>
          obtain rfl : d = '&' := by simpa using hhead
          exact hpair s hc rfl
      rw [List.cons_append, splitEntries_cons hend hnext, ih]
  exact hall []

/-- Trimming a text does not change what it lists. -/
theorem entriesOfLines_trimChars (s : List Char) :
    entriesOfLines (trimChars s) = entriesOfLines s := by
  have hfront : ∀ c ∈ s.takeWhile isBlank, isBlank c = true := fun c hc => List.mem_takeWhile_imp hc
  have hback : ∀ c ∈ (s.dropWhile isBlank).rtakeWhile isBlank, isBlank c = true := fun c hc =>
    List.mem_rtakeWhile_imp hc
  calc entriesOfLines (trimChars s)
      = entriesOfLines ((s.dropWhile isBlank).rdropWhile isBlank
        ++ (s.dropWhile isBlank).rtakeWhile isBlank) :=
        (entriesOfLines_append_blank hback _).symm
    _ = entriesOfLines (s.dropWhile isBlank) := by rw [List.rdropWhile_append_rtakeWhile]
    _ = entriesOfLines (s.takeWhile isBlank ++ s.dropWhile isBlank) :=
      (entriesOfLines_blank hfront _).symm
    _ = entriesOfLines s := by rw [List.takeWhile_append_dropWhile]

/-! ### Lists of entries -/

/-- A cell of a text: blank, or an entry with blanks around it. -/
inductive Cell : List (String × String) → List Char → Prop
  | blank {b : List Char} (hb : ∀ c ∈ b, isBlank c = true) : Cell [] b
  | entry {b b' : List Char} (e : String × String) (hb : ∀ c ∈ b, isBlank c = true)
      (hb' : ∀ c ∈ b', isBlank c = true) : Cell [e] (b ++ (line e ++ b'))

/-- The text lists the entries: it consists of cells with a separator between each two of them. -/
inductive Lists : List (String × String) → List Char → Prop
  | last {entries : List (String × String)} {s : List Char} (hcell : Cell entries s) :
      Lists entries s
  | more {entries others : List (String × String)} {s sep t : List Char} (hcell : Cell entries s)
      (hsep : IsSeparator sep) (hmore : Lists others t) :
      Lists (entries ++ others) (s ++ (sep ++ t))

/-- A cell and the entries after it are read one after the other. -/
theorem Cell.entriesOfLines_append (h : Cell entries s)
    (hentries : ∀ e ∈ entries, IsEntry e ∧ FitsCell e) (hrest : Closes rest) :
    entriesOfLines (s ++ rest) = entries ++ entriesOfLines rest := by
  cases h with
  | blank hb => exact entriesOfLines_blank hb rest
  | entry e hb hb' =>
    obtain ⟨hentry, hfits⟩ := hentries e List.mem_cons_self
    rw [List.append_assoc, entriesOfLines_blank hb, List.append_assoc,
      entriesOfLines_line hentry hfits hb' hrest]
    rfl

/-- A text gives the entries that it lists. -/
theorem Lists.entriesOfLines_eq (h : Lists entries s)
    (hentries : ∀ e ∈ entries, IsEntry e ∧ FitsCell e) :
    entriesOfLines s = entries := by
  induction h with
  | @last entries s hcell =>
    have hnone : Closes [] := .inl rfl
    have hread := hcell.entriesOfLines_append hentries hnone
    rwa [List.append_nil, show entriesOfLines [] = [] from rfl, List.append_nil] at hread
  | @more entries others s sep t hcell hsep _ ih =>
    have hmine := fun e he => hentries e (List.mem_append_left others he)
    have hothers := fun e he => hentries e (List.mem_append_right entries he)
    rw [hcell.entriesOfLines_append hmine (.inr ⟨sep, t, hsep, rfl⟩),
      entriesOfLines_separator hsep, ih hothers]

/-- Behind its blanks a blank cell shows what follows it, and any other cell the title of
    its entry. -/
theorem Cell.front (h : Cell entries s) (hentries : ∀ e ∈ entries, IsEntry e) (rest : List Char) :
    (entries = [] ∧ (s ++ rest).dropWhile isBlank = rest.dropWhile isBlank)
      ∨ ∃ e, entries = [e] ∧ ((s ++ rest).dropWhile isBlank).head? = e.1.toList.head? := by
  cases h with
  | blank hb => exact .inl ⟨rfl, List.dropWhile_append_of_pos hb⟩
  | @entry b b' e hb hb' =>
    obtain ⟨c, more, htitle, hc⟩ := (hentries e List.mem_cons_self).title_front
    refine .inr ⟨e, rfl, ?_⟩
    rw [List.append_assoc, List.dropWhile_append_of_pos hb, line, htitle]
    simp [hc]

/-- A text of cells starts, after blanks, with a separator or with the title of its first entry. -/
theorem Lists.front {c : Char} (h : Lists entries s) (hentries : ∀ e ∈ entries, IsEntry e)
    (hc : (s.dropWhile isBlank).head? = some c) :
    c = '&' ∨ ∃ e ∈ entries.head?, e.1.toList.head? = some c := by
  induction h with
  | @last entries s hcell =>
    have hfront := hcell.front hentries []
    rw [List.append_nil] at hfront
    rcases hfront with ⟨rfl, hnone⟩ | ⟨e, rfl, hfirst⟩
    · rw [hnone] at hc
      cases hc
    · exact .inr ⟨e, rfl, hfirst ▸ hc⟩
  | @more entries others s sep t hcell hsep _ ih =>
    have hmine := fun e he => hentries e (List.mem_append_left others he)
    have hothers := fun e he => hentries e (List.mem_append_right entries he)
    rcases hcell.front hmine (sep ++ t) with ⟨rfl, hskip⟩ | ⟨e, rfl, hfirst⟩
    · rw [hskip] at hc
      rcases hsep with rfl | rfl
      · exact ih hothers hc
      · exact .inl (Option.some.inj hc).symm
    · exact .inr ⟨e, rfl, hfirst ▸ hc⟩

theorem parseExplore_eq {text : String} (h : (Text.trim text).toList.head? ≠ some '[') :
    parseExplore (some text) = .ok (entriesOfLines text.toList) := by
  have hread : entriesOfLines (Text.trim text).toList = entriesOfLines text.toList := by
    rw [Text.toList_trim, entriesOfLines_trimChars]
  rw [parseExplore, Option.getD_some, if_neg h, hread]
  split
  · next hempty =>
    rw [hempty] at hread
    rw [← hread]
    rfl
  · rfl

/-! ### Arrays of objects -/

/-- A value has the title and the address of the entry as its members. -/
structure Describes (v : Json) (e : String × String) : Prop where
  title : v.member? "title" = some (.str e.1)
  address : v.member? "url" = some (.str e.2)

def item (e : String × String) : Json := .obj [("title", .str e.1), ("url", .str e.2)]

theorem describes_item (e : String × String) : Describes (item e) e := ⟨rfl, rfl⟩

theorem describes_items (entries : List (String × String)) :
    List.Forall₂ Describes (entries.map item) entries := by
  induction entries with
  | nil => exact .nil
  | cons e entries ih => exact .cons (describes_item e) ih

theorem Describes.entryOfItem?_eq {v : Json} (h : Describes v e) (hentry : IsEntry e) :
    entryOfItem? v = some e := by
  have htitle : isGiven (.str e.1) = true := by simpa [isGiven] using hentry.title
  have haddress : isGiven (.str e.2) = true := by simpa [isGiven] using hentry.address
  rw [entryOfItem?, h.address, h.title]
  dsimp only
  rw [if_pos haddress, if_pos htitle, Json.shown, Json.shown, hentry.titleTrimmed,
    hentry.addressTrimmed]

theorem filterMap_entryOfItem? {items : List Json} (h : List.Forall₂ Describes items entries)
    (hentries : ∀ e ∈ entries, IsEntry e) : items.filterMap entryOfItem? = entries := by
  induction h with
  | nil => rfl
  | cons hfirst _ ih =>
    rw [List.filterMap_cons_some (hfirst.entryOfItem?_eq (hentries _ List.mem_cons_self)),
      ih fun e he => hentries e (List.mem_cons_of_mem _ he)]

/-- In Json fewer characters count as blanks. -/
theorem isBlank_of_isSpace {c : Char} (h : Json.isSpace c = true) : isBlank c = true := by
  simp only [Json.isSpace, Bool.or_eq_true, beq_iff_eq] at h
  rcases h with ((rfl | rfl) | rfl) | rfl <;> rfl

theorem skipSpace_of_trimmed {text : String} (h : Text.trim text = text) :
    Json.skipSpace text.toList = text.toList := by
  have hsame := (Text.dropWhile_of_trimmed (trimChars_toList h)).1
  rw [List.dropWhile_eq_self_iff] at hsame
  exact List.dropWhile_eq_self_iff.mpr fun hpos hspace => hsame hpos (isBlank_of_isSpace hspace)

/-- A text that is an array starts with a bracket. -/
theorem array_front {text : String} {items : List Json}
    (h : parseJson (Text.trim text) = .ok (.arr items)) :
    (Text.trim text).toList.head? = some '[' := by
  have hfront := Json.parse_arr_front (parseJson_eq_ok.mp h)
  rwa [skipSpace_of_trimmed (Text.trim_trim text)] at hfront

/-- A text that is an array, blanks around it apart, is read item by item. -/
theorem parseExplore_array {text : String} {items : List Json}
    (h : parseJson (Text.trim text) = .ok (.arr items)) :
    parseExplore (some text) = .ok (items.filterMap entryOfItem?) := by
  have hfront := array_front h
  have hne : Text.trim text ≠ "" := by
    intro hempty
    rw [hempty] at hfront
    cases hfront
  rw [parseExplore, Option.getD_some, if_neg hne, if_pos hfront, h]

/-- Between brackets there is nothing to trim. -/
theorem trim_brackets (inner : List Char) :
    Text.trim (String.ofList ('[' :: (inner ++ [']'])))
      = String.ofList ('[' :: (inner ++ [']'])) := by
  rw [Text.trim_ofList, trimChars, ← List.nil_append ('[' :: _),
    Text.trimBy_append_cons (by decide), List.rdropWhile_concat_neg _ _ _ (by decide)]
  rfl

theorem trim_writes {vs : List Json} {cs : List Char} (h : Json.Writes (.value (.arr vs)) cs) :
    Text.trim (String.ofList cs) = String.ofList cs := by
  obtain ⟨inner, rfl⟩ := h.brackets
  exact trim_brackets inner

theorem plain_items_of_entries (points : Bool) (entries : List (String × String)) :
    (Json.arr (entries.map item)).isPlain points = true := by
  rw [Json.isPlain, Json.arePlain_iff]
  intro v hv
  obtain ⟨e, -, rfl⟩ := List.mem_map.mp hv
  rfl

theorem parseExplore_writes (hentries : ∀ e ∈ entries, IsEntry e) {cs : List Char}
    (h : Json.Writes (.value (.arr (entries.map item))) cs) :
    parseExplore (some (String.ofList cs)) = .ok entries := by
  have hread : parseJson (Text.trim (String.ofList cs)) = .ok (.arr (entries.map item)) := by
    rw [trim_writes h, parseJson_eq_ok, String.toList_ofList]
    exact h.parse
  rw [parseExplore_array hread, filterMap_entryOfItem? (describes_items entries) hentries]

/-! ### Both notations -/

/-- Entries that are listed in cells of a text are read as they were, in their order, and so are
    entries that are items of an array, however it is written.  Only a first title that starts
    with a bracket could make cells look like an array. -/
theorem listings_read_back :
    (∀ entries (text : String), (∀ e ∈ entries, IsEntry e ∧ FitsCell e) →
        (∀ e ∈ entries.head?, e.1.toList.head? ≠ some '[') → Lists entries text.toList →
        parseExplore (some text) = .ok entries)
    ∧ ∀ entries, (∀ e ∈ entries, IsEntry e) →
        (∀ text items, parseJson (Text.trim text) = .ok (.arr items) →
          List.Forall₂ Describes items entries → parseExplore (some text) = .ok entries)
        ∧ parseExplore (some (Json.arr (entries.map item)).compact) = .ok entries
        ∧ parseExplore (some (Json.arr (entries.map item)).spaced) = .ok entries
        ∧ parseExplore (some (Json.arr (entries.map item)).indented) = .ok entries := by
  constructor
  · intro entries text hentries hfirst hlists
    have hread := hlists.entriesOfLines_eq hentries
    have hfront : (Text.trim text).toList.head? ≠ some '[' := by
      rw [Text.toList_trim, trimChars, Text.head?_trimBy]
      intro hbracket
      rcases hlists.front (fun e he => (hentries e he).1) hbracket with h | ⟨e, he, htitle⟩
      · exact absurd h (by decide)
      · exact hfirst e he htitle
    rw [parseExplore_eq hfront, hread]
  · intro entries hentries
    have hplain := plain_items_of_entries false entries
    have hline := fun {sep} (hsep : Json.Separators.Blanks sep) => Json.writes_line hsep _ hplain
    have hindented := Json.writes_indented 0 _ hplain
    rw [Json.reread_plain _ hplain] at hindented
    simp only [Json.reread_plain _ hplain] at hline
    refine ⟨fun text items htext hitems => ?_,
      parseExplore_writes hentries (hline Json.blanks_dense),
      parseExplore_writes hentries (hline Json.blanks_loose),
        parseExplore_writes hentries hindented⟩
    rw [parseExplore_array htext, filterMap_entryOfItem? hitems hentries]

/-- Two pages in cells, with a blank cell between them. -/
def rankings : List (String × String) := [("A", "/a"), ("B&[", "/::&c")]

/-- They are found in a text that has both separators, and in an array. -/
theorem rankings_read_back :
    parseExplore (some "A::/a &&\t\nB&[::/::&c ") = .ok rankings
      ∧ parseExplore (some (Json.arr (rankings.map item)).compact) = .ok rankings := by
  have hfirst : IsEntry ("A", "/a") ∧ FitsCell ("A", "/a") :=
    ⟨⟨by decide, by decide, by decide, by decide⟩,
      ⟨by decide, by decide, by decide, by decide, by decide⟩⟩
  have hsecond : IsEntry ("B&[", "/::&c") ∧ FitsCell ("B&[", "/::&c") :=
    ⟨⟨by decide, by decide, by decide, by decide⟩,
      ⟨by decide, by decide, by decide, by decide, by decide⟩⟩
  have hentries : ∀ e ∈ rankings, IsEntry e ∧ FitsCell e := by
    simp only [rankings, List.forall_mem_cons]
    exact ⟨hfirst, hsecond, by simp⟩
  have hlists : Lists rankings "A::/a &&\t\nB&[::/::&c ".toList := by
    have htext : "A::/a &&\t\nB&[::/::&c ".toList
        = [] ++ (line ("A", "/a") ++ [' '])
          ++ (['&', '&'] ++ (['\t'] ++ (['\n'] ++ ([] ++ (line ("B&[", "/::&c") ++ [' ']))))) := by
            decide
    have hspace : ∀ c ∈ [' '], isBlank c = true := List.forall_mem_singleton.mpr rfl
    have htab : ∀ c ∈ ['\t'], isBlank c = true := List.forall_mem_singleton.mpr rfl
    rw [htext]
    exact .more (.entry ("A", "/a") (by simp) hspace) (.inr rfl)
      (.more (.blank htab) (.inl rfl) (.last (.entry ("B&[", "/::&c") (by simp) hspace)))
  obtain ⟨hcells, harrays⟩ := listings_read_back
  obtain ⟨-, hcompact, -⟩ := harrays rankings fun e he => (hentries e he).1
  exact ⟨hcells rankings _ hentries (by simp [rankings]) hlists, hcompact⟩

end Source

end Gleaner
