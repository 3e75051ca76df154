/-
  Gleaner/Proofs/Url/Absolute.lean
  ================================
  **Absolute addresses.**  An absolute address stays one when it is trimmed, and against
  any base it resolves to itself, trimmed.  Whatever is resolved against an absolute base
  names a scheme (`full_hasScheme`): it comes to the base, it takes its scheme, or it has
  one of its own already.
-/
import Gleaner.Proofs.Fault
import Gleaner.Proofs.Text.Run
import Gleaner.Proofs.Text.Trim
import Gleaner.Url.Parts

namespace Gleaner.Url

theorem isAbsolute_trimChars {url : List Char} (h : isAbsolute url = true) :
    isAbsolute (Text.trimChars url) = true := by
  unfold isAbsolute at h ⊢
  rw [Bool.or_eq_true] at h ⊢
  rcases h with h | h
  · exact .inl (Text.startsWith_trimChars (by decide) rfl h)
  · exact .inr (Text.startsWith_trimChars (by decide) rfl h)

theorem isAbsolute_trim {url : String} (h : isAbsolute url.toList = true) :
    isAbsolute (Text.trim url).toList = true := by
  rw [Text.toList_trim]
  exact isAbsolute_trimChars h

/-- An absolute address is not blank. -/
theorem allBlank_of_isAbsolute {url : String} (h : isAbsolute url.toList = true) :
    Text.allBlank url = false := by
  rw [Bool.eq_false_iff]
  intro hblank
  have hempty := Text.trim_eq_empty_iff.mpr hblank
  have htrim := isAbsolute_trim h
  rw [hempty] at htrim
  exact absurd htrim (by decide)

/-- Against any base an absolute address resolves to itself. -/
theorem full_absolute (base : String) {url : String} (h : isAbsolute url.toList = true) :
    full base url = .ok (Text.trim url) := by
  unfold full fullChars
  dsimp only
  rw [if_pos (isAbsolute_trimChars h)]
  rfl

/-! ### Addresses with a scheme -/

/-- The address names its scheme, so it does not hang on a page. -/
def HasScheme (url : String) : Prop := (splitScheme [] (cleaned url.toList)).1 ≠ []

/-- An address that hangs on the page on which it stands. -/
def IsRelative (url : String) : Prop := url ≠ "" ∧ ¬ HasScheme url

instance (url : String) : Decidable (HasScheme url) := inferInstanceAs (Decidable (_ ≠ _))

instance (url : String) : Decidable (IsRelative url) := inferInstanceAs (Decidable (_ ∧ _))

theorem not_isRelative {url : String} (h : HasScheme url) : ¬ IsRelative url :=
  fun hrelative => hrelative.2 h

def IsWeb (scheme : List Char) : Prop := scheme = "http".toList ∨ scheme = "https".toList

variable {scheme base url u : List Char}

theorem IsWeb.ne_nil (h : IsWeb scheme) : scheme ≠ [] := by
  rcases h with rfl | rfl <;> decide

theorem IsWeb.relative (h : IsWeb scheme) : schemeIn scheme relativeSchemes = true := by
  rcases h with rfl | rfl <;> decide

theorem IsWeb.cleaned (h : IsWeb scheme) (rest : List Char) :
    Url.cleaned (scheme ++ ':' :: rest) = scheme ++ ':' :: rest.filter (!isLineNoise ·) := by
  rcases h with rfl | rfl <;> rfl

/-- A scheme of the web is read back from the front of an address. -/
theorem IsWeb.splitScheme_eq (h : IsWeb scheme) (other rest : List Char) :
    Url.splitScheme other (scheme ++ ':' :: rest) = (scheme, rest) := by
  have hcolon : ':' ∉ scheme := by
    rcases h with rfl | rfl <;> decide
  rw [Url.splitScheme, Text.cutAt?_sign hcolon]
  rcases h with rfl | rfl <;> rfl

theorem IsWeb.splitScheme (h : IsWeb scheme) (other rest : List Char) :
    (Url.splitScheme other (Url.cleaned (scheme ++ ':' :: rest))).1 = scheme := by
  rw [h.cleaned, h.splitScheme_eq]

theorem IsWeb.hasScheme (h : IsWeb scheme) (rest : List Char) :
    HasScheme (String.ofList (scheme ++ ':' :: rest)) := by
  unfold HasScheme
  rw [String.toList_ofList, h.splitScheme]
  exact h.ne_nil

/-- An absolute address names a scheme of the web. -/
theorem isWeb_of_isAbsolute (h : isAbsolute url = true) :
    ∃ scheme rest, IsWeb scheme ∧ url = scheme ++ ':' :: rest := by
  unfold isAbsolute at h
  rcases Bool.or_eq_true _ _ |>.mp h with h | h
  · obtain ⟨rest, rfl⟩ := Text.startsWith_iff.mp h
    exact ⟨"http".toList, '/' :: '/' :: rest, .inl rfl, rfl⟩
  · obtain ⟨rest, rfl⟩ := Text.startsWith_iff.mp h
    exact ⟨"https".toList, '/' :: '/' :: rest, .inr rfl, rfl⟩

theorem hasScheme_of_isAbsolute {url : String} (h : isAbsolute url.toList = true) :
    HasScheme url := by
  obtain ⟨scheme, rest, hweb, hurl⟩ := isWeb_of_isAbsolute h
  rw [← String.ofList_toList (s := url), hurl]
  exact hweb.hasScheme rest

/-- A scheme other than the one that goes without saying is named in the address. -/
theorem splitScheme_other {other s : List Char} (h : (splitScheme other s).1 ≠ other) :
    (splitScheme [] s).1 ≠ [] := by
  unfold splitScheme at h ⊢
  split at h
  · split at h
    · next hletter => simp [hletter]
    · exact absurd rfl h
  · exact absurd rfl h

theorem splitWith_scheme {other : List Char} {p : Parts} (h : splitWith other url = .ok p) :
    p.scheme = (splitScheme other (cleaned url)).1 := by
  unfold splitWith at h
  dsimp only at h
  split at h
  · cases h
  · split at h
    · cases h
    · split at h
      · cases h
      · cases h
        rfl

/-- Parts with a scheme are written with it in front. -/
theorem Parts.text_of_scheme {p : Parts} (h : p.scheme ≠ []) :
    ∃ rest, p.text = p.scheme ++ ':' :: rest := by
  refine ⟨p.place ++ marked '?' p.query ++ marked '#' p.fragment, ?_⟩
  unfold Parts.text
  rw [if_neg (by simpa using h)]
  simp

/-- An address that is put together starts with the scheme of the reference. -/
theorem joinParts_text {b r : Parts} (h : r.scheme ≠ []) :
    ∃ rest, joinParts b r = r.scheme ++ ':' :: rest := by
  unfold joinParts
  dsimp only
  split
  · exact Parts.text_of_scheme (p := { r with path := _ }) h
  · split
    · exact Parts.text_of_scheme (p := ⟨r.scheme, _, _, _, _⟩) h
    · exact Parts.text_of_scheme (p := ⟨r.scheme, _, _, _, _⟩) h

/-- What is joined to an absolute address names its scheme. -/
theorem join_hasScheme (hbase : isAbsolute base = true) (h : join base url = .ok u) :
    HasScheme (String.ofList u) := by
  obtain ⟨scheme, rest, hweb, rfl⟩ := isWeb_of_isAbsolute hbase
  unfold join at h
  rw [if_neg (by simp)] at h
  by_cases hempty : url.isEmpty = true
  · rw [if_pos hempty] at h
    cases h
    exact hweb.hasScheme rest
  rw [if_neg hempty] at h
  cases hb : split (scheme ++ ':' :: rest) with
  | error e => rw [hb] at h; cases h
  | ok b =>
    rw [hb] at h
    dsimp only at h
    have hscheme : b.scheme = scheme := by
      rw [splitWith_scheme hb]
      exact hweb.splitScheme [] rest
    rw [hscheme] at h
    cases hr : splitWith scheme url with
    | error e => rw [hr] at h; cases h
    | ok r =>
      rw [hr] at h
      dsimp only at h
      by_cases hsame : r.scheme = scheme
      · rw [hsame, hweb.relative, if_neg (by simp)] at h
        cases h
        have hne : r.scheme ≠ [] := by
          rw [hsame]
          exact hweb.ne_nil
        obtain ⟨rest', htext⟩ := joinParts_text (b := b) hne
        rw [htext, hsame]
        exact hweb.hasScheme rest'
      · -- another scheme than that of the base is the address's own
        rw [if_pos (.inl hsame)] at h
        cases h
        unfold HasScheme
        rw [String.toList_ofList]
        rw [splitWith_scheme hr] at hsame
        exact splitScheme_other hsame

/-- Against an absolute base every address resolves to one with a scheme. -/
theorem full_hasScheme {base url u : String} (hbase : isAbsolute base.toList = true)
    (h : full base url = .ok u) : HasScheme u := by
  unfold full fullChars at h
  dsimp only at h
  obtain ⟨chars, hchars, rfl⟩ := map_eq_ok.mp h
  by_cases habsolute : isAbsolute (Text.trimChars url.toList) = true
  · rw [if_pos habsolute] at hchars
    cases hchars
    apply hasScheme_of_isAbsolute
    rwa [String.toList_ofList]
  · rw [if_neg habsolute] at hchars
    by_cases hempty : base.toList.isEmpty = true
    · rw [List.isEmpty_iff] at hempty
      rw [hempty] at hbase
      exact absurd hbase (by decide)
    · rw [if_neg hempty] at hchars
      exact join_hasScheme hbase hchars

end Gleaner.Url
