/-
  Gleaner/Proofs/Source/Usable.lean
  =================================
  **Explore pages that can be opened.**  Every entry that a text lists is trimmed, and in
  cells every entry has a title and an address.  In an array an item is listed as soon as its
  address is given, and its title and address are trimmed afterwards; so the entries can be
  used exactly if no item has a string of blanks for one of them (`entries_usable_iff`).  An
  entry without an address would open the page of the source itself.
-/
import Gleaner.Proofs.Source.Listing
import Gleaner.Url.Template

namespace Gleaner

/-! ### Shown values -/

namespace Json

theorem StartsNumber.solid {c : Char} (h : StartsNumber c) : Text.isBlank c = false := by
  rcases h with h | rfl | rfl | rfl
  · exact Text.forall_digit (p := fun c => Text.isBlank c = false) (by decide) h
  all_goals rfl

theorem realText_front (x : Binary64) :
    ∃ c more, (x.text Binary64.shownTexts).toList = c :: more ∧ Text.isBlank c = false := by
  cases x with
  | nan => exact ⟨'n', _, rfl, rfl⟩
  | infinite negative =>
    cases negative
    · exact ⟨'i', _, rfl, rfl⟩
    · exact ⟨'-', _, rfl, rfl⟩
  | finite negative m e =>
    obtain ⟨w, t, -, -, -, htext, hw, -⟩ := Binary64.magnitudeText_parts m e
    obtain ⟨c, more, hfront, hc⟩ := signed_front negative hw t
    refine ⟨c, more, ?_, hc.solid⟩
    rw [Binary64.text, String.toList_ofList, htext]
    exact hfront

/-- A value that is no string is shown with a character that is no blank at its front. -/
theorem shown_front {v : Json} (h : ∀ s, v ≠ .str s) :
    ∃ c more, v.shown.toList = c :: more ∧ Text.isBlank c = false := by
  cases v with
  | null => exact ⟨'N', _, rfl, rfl⟩
  | bool b =>
    cases b
    · exact ⟨'F', _, rfl, rfl⟩
    · exact ⟨'T', _, rfl, rfl⟩
  | int n =>
    obtain ⟨c, more, hfront, hc⟩ := int_front n
    exact ⟨c, more, hfront, hc.solid⟩
  | real x => exact realText_front x
  | str s => exact absurd rfl (h s)
  | arr items => exact ⟨'[', _, by simp [shown, inspect]; rfl, rfl⟩
  | obj members => exact ⟨'{', _, by simp [shown, inspect]; rfl, rfl⟩

end Json

namespace Source

variable {v u t : Json} {e : String × String} {entries : List (String × String)}

/-- A string with something in it, all of it blanks. -/
def IsBlankString (v : Json) : Prop := ∃ s, v = .str s ∧ s ≠ "" ∧ Text.allBlank s = true

/-- Of what is given, only strings of blanks are trimmed to nothing. -/
theorem trim_shown_eq_empty_iff (h : isGiven v = true) :
    Text.trim v.shown = "" ↔ IsBlankString v := by
  by_cases hstr : ∃ s, v = .str s
  · obtain ⟨s, rfl⟩ := hstr
    have hne : s ≠ "" := by simpa [isGiven] using h
    rw [Json.shown, Text.trim_eq_empty_iff]
    constructor
    · exact fun hblank => ⟨s, rfl, hne, hblank⟩
    · rintro ⟨s, ⟨⟩, -, hblank⟩
      exact hblank
  · obtain ⟨c, more, hfront, hc⟩ := Json.shown_front fun s hs => hstr ⟨s, hs⟩
    rw [Text.trim_eq_empty_iff, Text.allBlank, hfront, List.all_cons, hc, Bool.false_and]
    constructor
    · exact fun hfalse => absurd hfalse Bool.false_ne_true
    · rintro ⟨s, hs, -⟩
      exact absurd ⟨s, hs⟩ hstr

theorem IsBlankString.given (h : IsBlankString v) : isGiven v = true := by
  obtain ⟨s, rfl, hne, -⟩ := h
  simpa [isGiven] using hne

/-! ### Items -/

/-- The item is listed, as its address is given, although its address or its title is blank. -/
inductive IsHollow (v : Json) : Prop
  | address {u : Json} (hu : v.member? "url" = some u) (hblank : IsBlankString u)
  | title {u t : Json} (hu : v.member? "url" = some u) (hgiven : isGiven u = true)
      (ht : v.member? "title" = some t) (hblank : IsBlankString t)

/-- The title of an item is its own, if it has one, else its address. -/
theorem entryOfItem?_eq_some :
    entryOfItem? v = some e ↔ ∃ u, v.member? "url" = some u ∧ isGiven u = true
    ∧ e.2 = Text.trim u.shown
    ∧ ((∃ t, v.member? "title" = some t ∧ isGiven t = true ∧ e.1 = Text.trim t.shown)
      ∨ (∀ t, v.member? "title" = some t → isGiven t = false) ∧ e.1 = e.2) := by
  obtain ⟨title, address⟩ := e
  rw [entryOfItem?]
  cases v.member? "url" with
  | none => simp
  | some u =>
    cases hgiven : isGiven u with
    | false => simp [hgiven]
    | true =>
      simp only [if_true, Option.some.injEq, Prod.mk.injEq, exists_eq_left', hgiven, true_and]
      rw [and_comm, eq_comm (a := Text.trim u.shown)]
      refine and_congr_right fun haddress => ?_
      rw [← haddress, eq_comm (b := title)]
      cases v.member? "title" with
      | none => simp
      | some t => cases ht : isGiven t <;> simp [ht]

def IsTrimmed (e : String × String) : Prop := Text.trim e.1 = e.1 ∧ Text.trim e.2 = e.2

theorem IsTrimmed.isEntry_iff (h : IsTrimmed e) : IsEntry e ↔ e.1 ≠ "" ∧ e.2 ≠ "" :=
  ⟨fun hentry => ⟨hentry.title, hentry.address⟩, fun hne => ⟨h.1, hne.1, h.2, hne.2⟩⟩

theorem IsEntry.trimmed (h : IsEntry e) : IsTrimmed e := ⟨h.titleTrimmed, h.addressTrimmed⟩

theorem entryOfItem?_trimmed (h : entryOfItem? v = some e) : IsTrimmed e := by
  obtain ⟨u, -, -, haddress, ⟨t, -, -, htitle⟩ | ⟨-, htitle⟩⟩ := entryOfItem?_eq_some.mp h
  · exact ⟨by rw [htitle, Text.trim_trim], by rw [haddress, Text.trim_trim]⟩
  · exact ⟨by rw [htitle, haddress, Text.trim_trim], by rw [haddress, Text.trim_trim]⟩

/-- The entry of an item can be used unless the item is hollow. -/
theorem isEntry_iff_not_hollow (h : entryOfItem? v = some e) : IsEntry e ↔ ¬ IsHollow v := by
  obtain ⟨u, hu, hgiven, haddress, htitle⟩ := entryOfItem?_eq_some.mp h
  have hblank : e.2 = "" ↔ IsBlankString u := haddress ▸ trim_shown_eq_empty_iff hgiven
  constructor
  · rintro hentry (⟨hu', hblank'⟩ | ⟨hu', -, ht', hblank'⟩)
    · obtain rfl := Option.some.inj (hu.symm.trans hu')
      exact hentry.address (hblank.mpr hblank')
    · rcases htitle with ⟨t, ht, htgiven, heq⟩ | ⟨hnone, -⟩
      · obtain rfl := Option.some.inj (ht.symm.trans ht')
        exact hentry.title (heq.trans ((trim_shown_eq_empty_iff htgiven).mpr hblank'))
      · exact absurd hblank'.given (by simp [hnone _ ht'])
  · intro hsound
    have hne : e.2 ≠ "" := fun hempty => hsound (.address hu (hblank.mp hempty))
    refine (entryOfItem?_trimmed h).isEntry_iff.mpr ⟨?_, hne⟩
    rcases htitle with ⟨t, ht, htgiven, heq⟩ | ⟨-, heq⟩
    · intro hempty
      exact hsound (.title hu hgiven ht ((trim_shown_eq_empty_iff htgiven).mp (heq ▸ hempty)))
    · exact heq ▸ hne

/-- An item with an address is listed. -/
theorem entryOfItem?_isSome (hu : v.member? "url" = some u) (hgiven : isGiven u = true) :
    ∃ e, entryOfItem? v = some e := by
  rw [entryOfItem?, hu]
  exact ⟨_, if_pos hgiven⟩

theorem IsHollow.listed (h : IsHollow v) : ∃ e, entryOfItem? v = some e := by
  cases h with
  | address hu hblank => exact entryOfItem?_isSome hu hblank.given
  | title hu hgiven _ _ => exact entryOfItem?_isSome hu hgiven

/-- All entries of an array can be used exactly if none of its items is hollow. -/
theorem items_usable_iff {items : List Json} :
    (∀ e ∈ items.filterMap entryOfItem?, IsEntry e) ↔ ∀ v ∈ items, ¬ IsHollow v := by
  simp only [List.mem_filterMap]
  constructor
  · intro husable v hv hhollow
    obtain ⟨e, he⟩ := hhollow.listed
    exact (isEntry_iff_not_hollow he).mp (husable e ⟨v, hv, he⟩) hhollow
  · rintro hsound e ⟨v, hv, he⟩
    exact (isEntry_iff_not_hollow he).mpr (hsound v hv)

/-! ### Cells -/

theorem isEntry_ofList {t a : List Char} (htitle : Text.trimChars t = t) (ht : t ≠ [])
    (haddress : Text.trimChars a = a) (ha : a ≠ []) :
    IsEntry (String.ofList t, String.ofList a) where
  titleTrimmed := by rw [Text.trim_ofList, htitle]
  title := by simpa using ht
  addressTrimmed := by rw [Text.trim_ofList, haddress]
  address := by simpa using ha

/-- In a cell both texts are trimmed before they are looked at. -/
theorem entryOfPart?_usable {p : List Char} (h : entryOfPart? p = some e) : IsEntry e := by
  unfold entryOfPart? at h
  dsimp only at h
  split at h
  · cases h
  generalize (Text.cutAt? [':', ':'] (Text.trimChars p)).getD (Text.trimChars p, Text.trimChars p)
    = parts at h
  obtain ⟨t, a⟩ := parts
  split at h
  · cases h
  · next haddress =>
    obtain rfl := Option.some.inj h
    have ha : Text.trimChars a ≠ [] := by simpa using haddress
    have hsame : ∀ s, Text.trimChars (Text.trimChars s) = Text.trimChars s :=
      Text.trimBy_trimBy Text.isBlank
    cases ht : (Text.trimChars t).isEmpty with
    | true => exact isEntry_ofList (hsame a) ha (hsame a) ha
    | false => exact isEntry_ofList (hsame t) (by simpa using ht) (hsame a) ha

theorem entriesOfLines_usable {s : List Char} : ∀ e ∈ entriesOfLines s, IsEntry e := by
  intro e he
  obtain ⟨p, -, hp⟩ := List.mem_filterMap.mp he
  exact entryOfPart?_usable hp

/-! ### Texts -/

/-- What a text is read as: as an array if it is one, else by its lines. -/
theorem parseExplore_lines {text : Option String} (h : parseExplore text = .ok entries) :
    (∃ items, parseJson (Text.trim (text.getD "")) = .ok (.arr items)
      ∧ entries = items.filterMap entryOfItem?)
      ∨ (∀ items, parseJson (Text.trim (text.getD "")) ≠ .ok (.arr items))
        ∧ entries = entriesOfLines (Text.trim (text.getD "")).toList := by
  by_cases harray : ∃ items, parseJson (Text.trim (text.getD "")) = .ok (.arr items)
  · obtain ⟨items, hitems⟩ := harray
    refine .inl ⟨items, hitems, ?_⟩
    have hread : parseExplore text = parseExplore (some (text.getD "")) := by
      rw [parseExplore, parseExplore, Option.getD_some]
    rw [hread, parseExplore_array hitems] at h
    exact (Except.ok.inj h).symm
  · refine .inr ⟨fun items hitems => harray ⟨items, hitems⟩, ?_⟩
    unfold parseExplore at h
    dsimp only at h
    split at h
    · next hempty =>
      rw [hempty]
      exact (Except.ok.inj h).symm
    split at h
    · split at h
      · next items hitems => exact absurd ⟨items, hitems⟩ harray
      · exact (Except.ok.inj h).symm
      · exact (Except.ok.inj h).symm
      · cases h
    · exact (Except.ok.inj h).symm

theorem parseExplore_cases {text : Option String} (h : parseExplore text = .ok entries) :
    (∃ items, parseJson (Text.trim (text.getD "")) = .ok (.arr items)
      ∧ entries = items.filterMap entryOfItem?)
      ∨ (∀ items, parseJson (Text.trim (text.getD "")) ≠ .ok (.arr items))
      ∧ ∃ s, entries = entriesOfLines s :=
  (parseExplore_lines h).imp_right fun ⟨harray, hlines⟩ => ⟨harray, _, hlines⟩

/-- Without an address the address of the source is opened. -/
theorem exploreUrl_empty (base : String) (page : Int) : Url.exploreUrl base "" page = .ok base := by
  have hfill : Url.fillTemplate (Text.trim "") none page = "" := rfl
  have htrim : Text.trimChars "".toList = [] := rfl
  rw [Url.exploreUrl, hfill, Url.full, Url.fullChars, htrim, if_neg (by decide)]
  split
  · next hempty => simp_all [Except.map]
  · next hbase => simp [Url.join, hbase, Except.map]

/-- Every entry is trimmed.  All entries can be used exactly if the text is no array with a hollow
    item; an entry without an address would open the address of the source itself. -/
theorem entries_usable_iff {text : Option String} (h : parseExplore text = .ok entries) :
    (∀ e ∈ entries, IsTrimmed e)
      ∧ ((∀ e ∈ entries, IsEntry e)
        ↔ ∀ items, parseJson (Text.trim (text.getD "")) = .ok (.arr items) →
          ∀ v ∈ items, ¬ IsHollow v)
      ∧ ∀ e ∈ entries, e.2 = "" → ∀ base page, Url.exploreUrl base e.2 page = .ok base := by
  refine ⟨?_, ?_, fun e _ hempty base page => by rw [hempty, exploreUrl_empty]⟩
  · rcases parseExplore_cases h with ⟨items, -, rfl⟩ | ⟨-, s, rfl⟩
    · intro e he
      obtain ⟨v, -, hv⟩ := List.mem_filterMap.mp he
      exact entryOfItem?_trimmed hv
    · exact fun e he => (entriesOfLines_usable e he).trimmed
  · rcases parseExplore_cases h with ⟨items, hitems, rfl⟩ | ⟨harray, s, rfl⟩
    · rw [items_usable_iff, hitems]
      constructor
      · rintro hsound _ ⟨⟩
        exact hsound
      · exact fun hsound => hsound items rfl
    · exact iff_of_true entriesOfLines_usable fun items hitems => absurd hitems (harray items)

/-- An address with blanks around it, and no title. -/
theorem untitled_item_usable :
    parseExplore (some "[\x7b\"url\":\" /a\"\x7d]") = .ok [("/a", "/a")]
      ∧ ∀ e ∈ [("/a", "/a")], IsEntry e := by
  have hread : parseExplore (some "[\x7b\"url\":\" /a\"\x7d]") = .ok [("/a", "/a")] := by cbv
  have hparse : parseJson (Text.trim "[\x7b\"url\":\" /a\"\x7d]")
      = .ok (.arr [.obj [("url", .str " /a")]]) := by
    cbv
  refine ⟨hread, (entries_usable_iff hread).2.1.mpr fun items hitems => ?_⟩
  rw [Option.getD_some, hparse] at hitems
  obtain rfl : [.obj [("url", .str " /a")]] = items := Json.arr.inj (Except.ok.inj hitems)
  rintro v hv (⟨hu, s, rfl, -, hblank⟩ | ⟨-, -, ht, -⟩) <;> obtain rfl := List.mem_singleton.mp hv
  · obtain rfl : " /a" = s := by simpa [Json.member?, Json.find?] using hu
    exact absurd hblank (by decide)
  · cases ht

/-- A blank address is listed, and opens the address of the source. -/
theorem blank_address_listed :
    parseExplore (some "[\x7b\"title\":\"A\",\"url\":\" \"\x7d]") = .ok [("A", "")]
      ∧ ¬ IsEntry ("A", "") ∧ Url.exploreUrl "http://a" "" 1 = .ok "http://a" :=
  ⟨by cbv, fun h => h.address rfl, exploreUrl_empty "http://a" 1⟩

end Source

end Gleaner
