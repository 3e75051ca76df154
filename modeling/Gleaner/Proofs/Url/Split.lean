/-
  Gleaner/Proofs/Url/Split.lean
  =============================
  **Taking addresses apart and putting them together.**  Every address has parts
  (`partsOf`), and `splitWith` gives them unless the authority is malformed
  (`splitWith_eq_ok`).  Parts that come of taking an address apart are clean: none has a
  character that would end it.  Clean parts with a scheme of the web and an authority are
  read back from the address that is written from them, with the path set at the root
  (`split_text`).

  That tells which references resolve: all but those with a malformed authority, on a page
  whose own address has a proper one (`full_error_iff`).
-/
import Gleaner.Proofs.Url.Absolute

namespace Gleaner

/-! ### Cuts -/

namespace Text

variable {d : Char} {s before rest : List Char}

theorem cutAt?_of_notMem (h : d ∉ s) : cutAt? [d] s = none := by
  induction s with
  | nil => rfl
  | cons c s ih =>
    rw [List.mem_cons, not_or] at h
    rw [cutAt?, ih h.2]
    simp [dropFront?, h.1]

/-- A text is cut at the first sign, and nothing of it is lost. -/
theorem cutAt?_eq_some (h : cutAt? [d] s = some (before, rest)) :
    s = before ++ d :: rest ∧ d ∉ before := by
  induction s generalizing before with
  | nil => cases h
  | cons c s ih =>
    rw [cutAt?] at h
    by_cases hc : d = c
    · subst hc
      simp [dropFront?] at h
      obtain ⟨rfl, rfl⟩ := h
      simp
    · simp [dropFront?, hc] at h
      obtain ⟨front, hcut, rfl⟩ := h
      obtain ⟨rfl, hfront⟩ := ih hcut
      simp [hc, hfront]

end Text

namespace Url

open Text (cutAt?_of_notMem cutAt?_eq_some cutAt?_sign takeWhile_run dropWhile_run)

section Cuts

variable {c : Char} {s r : List Char}

theorem splitAt_none (h : c ∉ s) : splitAt c s = (s, []) := by
  rw [splitAt, Text.cutAt?_of_notMem h]

theorem splitAt_sign (h : c ∉ s) (r : List Char) : splitAt c (s ++ c :: r) = (s, r) := by
  rw [splitAt, Text.cutAt?_sign h]

theorem splitAt_marked (h : c ∉ s) (r : List Char) : splitAt c (s ++ marked c r) = (s, r) := by
  unfold marked
  cases r with
  | nil => simpa using splitAt_none h
  | cons d r => exact splitAt_sign h (d :: r)

/-- What stands before a sign, the sign and what follows it are the whole text. -/
theorem splitAt_spec (c : Char) (s : List Char) :
    c ∉ (splitAt c s).1 ∧ (s = (splitAt c s).1 ∧ (splitAt c s).2 = []
      ∨ s = (splitAt c s).1 ++ c :: (splitAt c s).2) := by
  unfold splitAt
  rcases hcut : Text.cutAt? [c] s with _ | ⟨before, rest⟩
  · have hnone : c ∉ s := by
      intro hmem
      obtain ⟨front, back, rfl, hfront⟩ := List.eq_append_cons_of_mem hmem
      rw [cutAt?_sign hfront] at hcut
      cases hcut
    exact ⟨hnone, .inl ⟨rfl, rfl⟩⟩
  · obtain ⟨rfl, hbefore⟩ := cutAt?_eq_some hcut
    exact ⟨hbefore, .inr rfl⟩

theorem mem_splitAt_fst {d : Char} (h : d ∈ (splitAt c s).1) : d ∈ s ∧ d ≠ c := by
  obtain ⟨hnone, ⟨hs, -⟩ | hs⟩ := splitAt_spec c s
  · exact ⟨hs ▸ h, fun hd => hnone (hd ▸ h)⟩
  · rw [hs]
    exact ⟨by simp [h], fun hd => hnone (hd ▸ h)⟩

theorem mem_splitAt_snd {d : Char} (h : d ∈ (splitAt c s).2) : d ∈ s := by
  obtain ⟨-, ⟨-, hempty⟩ | hs⟩ := splitAt_spec c s
  · rw [hempty] at h
    cases h
  · rw [hs]
    simp [h]

/-- What stands before the cut starts as the whole, unless the cut is at the start. -/
theorem head?_splitAt (c : Char) (s : List Char) :
    (splitAt c s).1 = [] ∨ (splitAt c s).1.head? = s.head? := by
  obtain ⟨-, hs⟩ := splitAt_spec c s
  generalize splitAt c s = cut at hs
  obtain ⟨before, rest⟩ := cut
  cases before with
  | nil => exact .inl rfl
  | cons d before =>
    rcases hs with ⟨rfl, -⟩ | rfl
    · exact .inr rfl
    · exact .inr rfl

end Cuts

/-! ### The parts of an address -/

def partsOf (scheme url : List Char) : Parts :=
  let s := splitScheme scheme (cleaned url)
  let a := splitAuthority s.2
  let f := splitAt '#' a.2
  let q := splitAt '?' f.1
  ⟨s.1, a.1, q.1, q.2, f.2⟩

/-- The authority has one bracket alone, or in brackets what does not fit them, or it can be
    taken for another one. -/
def IsMalformed (url : List Char) : Prop :=
  hasLoneBracket (partsOf [] url).authority = true
    ∨ hasMisfit (partsOf [] url).authority = true
    ∨ isDeceptive (partsOf [] url).authority = true

/-- An authority of which nothing is wrong. -/
structure IsProper (authority : List Char) : Prop where
  paired : hasLoneBracket authority = false
  fitting : hasMisfit authority = false
  plain : isDeceptive authority = false

section Parts

variable {scheme other url : List Char} {p : Parts}

theorem not_isMalformed_iff : ¬ IsMalformed url ↔ IsProper (partsOf [] url).authority := by
  unfold IsMalformed
  simp only [not_or, Bool.not_eq_true]
  constructor
  · rintro ⟨hpaired, hfitting, hplain⟩
    exact ⟨hpaired, hfitting, hplain⟩
  · rintro ⟨hpaired, hfitting, hplain⟩
    exact ⟨hpaired, hfitting, hplain⟩

theorem splitScheme_snd (scheme other s : List Char) :
    (splitScheme scheme s).2 = (splitScheme other s).2 := by
  unfold splitScheme
  split
  · split <;> rfl
  · rfl

theorem partsOf_scheme (scheme other url : List Char) :
    partsOf scheme url = { partsOf other url with scheme := (partsOf scheme url).scheme } := by
  unfold partsOf
  dsimp only
  rw [splitScheme_snd scheme other]

theorem splitWith_eq (scheme url : List Char) : splitWith scheme url =
    if hasLoneBracket (partsOf scheme url).authority then .error (.badValue "Invalid IPv6 URL")
    else if hasMisfit (partsOf scheme url).authority then
      .error (.badValue (misfitText (bracketed (partsOf scheme url).authority)))
    else if isDeceptive (partsOf scheme url).authority then
      .error (.badValue ("netloc '" ++ String.ofList (partsOf scheme url).authority
        ++ "' contains invalid characters under NFKC normalization"))
    else .ok (partsOf scheme url) := rfl

/-- An address is taken apart into its parts exactly if it is not malformed. -/
theorem splitWith_eq_ok :
    splitWith scheme url = .ok p ↔ ¬ IsMalformed url ∧ p = partsOf scheme url := by
  have hauthority : (partsOf scheme url).authority = (partsOf [] url).authority := by
    rw [partsOf_scheme scheme []]
  unfold IsMalformed
  rw [splitWith_eq, hauthority]
  by_cases hbracket : hasLoneBracket (partsOf [] url).authority = true
  · simp [hbracket]
  by_cases hmisfit : hasMisfit (partsOf [] url).authority = true
  · simp [hbracket, hmisfit]
  by_cases hdeceptive : isDeceptive (partsOf [] url).authority = true
  · simp [hbracket, hmisfit, hdeceptive]
  · simp [hbracket, hmisfit, hdeceptive, eq_comm]

theorem split_eq_ok : split url = .ok p ↔ ¬ IsMalformed url ∧ p = partsOf [] url := splitWith_eq_ok

/-- Taking an address apart fails exactly if it is malformed. -/
theorem splitWith_error_iff : (∃ e, splitWith scheme url = .error e) ↔ IsMalformed url := by
  constructor
  · rintro ⟨e, he⟩
    by_contra hproper
    rw [splitWith_eq_ok.mpr ⟨hproper, rfl⟩] at he
    cases he
  · intro h
    cases hsplit : splitWith scheme url with
    | error e => exact ⟨e, rfl⟩
    | ok p => exact absurd h (splitWith_eq_ok.mp hsplit).1

/-- An address that names no scheme has the scheme that goes without saying. -/
theorem partsOf_of_relative (h : (partsOf [] url).scheme = []) (scheme : List Char) :
    partsOf scheme url = { partsOf [] url with scheme } := by
  have hscheme : (partsOf scheme url).scheme = scheme := by
    by_contra hother
    exact splitScheme_other hother h
  rw [partsOf_scheme scheme [], hscheme]

end Parts

/-! ### Clean parts -/

def IsPathChar (c : Char) : Prop := c ≠ '?' ∧ c ≠ '#' ∧ isLineNoise c = false

/-- No part has a character that would end it, or one that does not count. -/
structure Parts.Clean (p : Parts) : Prop where
  authority : ∀ c ∈ p.authority, endsAuthority c = false ∧ isLineNoise c = false
  path : ∀ c ∈ p.path, IsPathChar c
  query : ∀ c ∈ p.query, c ≠ '#' ∧ isLineNoise c = false
  fragment : ∀ c ∈ p.fragment, isLineNoise c = false

/-- The path with a slash in front, if there is a path. -/
def rooted (path : List Char) : List Char :=
  if !path.isEmpty && path.head? != some '/' then '/' :: path else path

def Parts.atRoot (p : Parts) : Parts := { p with path := rooted p.path }

section Clean

variable {scheme url s path : List Char} {p : Parts}

@[simp] theorem rooted_nil : rooted [] = [] := rfl

theorem rooted_of_head (h : path.head? = some '/') : rooted path = path := by
  unfold rooted
  simp [h]

theorem head?_rooted (path : List Char) : rooted path = [] ∨ (rooted path).head? = some '/' := by
  unfold rooted
  cases path with
  | nil => exact .inl rfl
  | cons c path =>
    by_cases hc : c = '/'
    · subst hc
      exact .inr rfl
    · right
      simp [hc]

theorem rooted_rooted (path : List Char) : rooted (rooted path) = rooted path := by
  rcases head?_rooted path with h | h
  · rw [h, rooted_nil]
  · exact rooted_of_head h

theorem mem_rooted {c : Char} (h : c ∈ rooted path) : c = '/' ∨ c ∈ path := by
  unfold rooted at h
  split at h
  · exact List.mem_cons.mp h
  · exact .inr h

theorem mem_splitScheme {c : Char} (h : c ∈ (splitScheme scheme s).2) : c ∈ s := by
  unfold splitScheme at h
  split at h
  · next first front rest hcut =>
    split at h
    · rw [(cutAt?_eq_some hcut).1]
      simp [h]
    · exact h
  · exact h

theorem isLineNoise_cleaned {c : Char} (h : c ∈ cleaned url) : isLineNoise c = false := by
  unfold cleaned at h
  simpa using (List.mem_filter.mp h).2

theorem mem_splitAuthority {c : Char} :
    (c ∈ (splitAuthority s).1 → endsAuthority c = false ∧ c ∈ s) ∧
    (c ∈ (splitAuthority s).2 → c ∈ s) := by
  unfold splitAuthority
  split
  · next r =>
    constructor
    · intro h
      refine ⟨by simpa using List.mem_takeWhile_imp h, ?_⟩
      simp [(List.takeWhile_sublist _).mem h]
    · intro h
      simp [(List.dropWhile_sublist _).mem h]
  · constructor
    · intro h
      cases h
    · exact id

/-- After an authority comes what ends it, if anything. -/
theorem head?_splitAuthority (h : (splitAuthority s).1 ≠ []) :
    ∀ c ∈ (splitAuthority s).2.head?, endsAuthority c = true := by
  unfold splitAuthority at h ⊢
  split
  · next r =>
    intro c hc
    have hnot := List.head?_dropWhile_not (fun c => !endsAuthority c) r
    rw [Option.mem_def.mp hc] at hnot
    simpa using hnot
  · next hnone =>
    split at h
    · next r => exact absurd rfl (hnone r)
    · exact absurd rfl h

/-- No part of an address holds a character that would end it. -/
theorem partsOf_clean (scheme url : List Char) : (partsOf scheme url).Clean := by
  have hnoise : ∀ c, c ∈ (splitAuthority (splitScheme scheme (cleaned url)).2).2 →
      isLineNoise c = false :=
    fun c hc => isLineNoise_cleaned (mem_splitScheme (mem_splitAuthority.2 hc))
  refine ⟨fun c hc => ?_, fun c hc => ?_, fun c hc => ?_, fun c hc => ?_⟩
  · obtain ⟨hends, hmem⟩ := mem_splitAuthority.1 hc
    exact ⟨hends, isLineNoise_cleaned (mem_splitScheme hmem)⟩
  · obtain ⟨hfront, hquestion⟩ := mem_splitAt_fst hc
    obtain ⟨hmem, hhash⟩ := mem_splitAt_fst hfront
    exact ⟨hquestion, hhash, hnoise c hmem⟩
  · obtain ⟨hmem, hhash⟩ := mem_splitAt_fst (mem_splitAt_snd hc)
    exact ⟨hhash, hnoise c hmem⟩
  · exact hnoise c (mem_splitAt_snd hc)

/-- With an authority in front the path of an address starts at the root, so the parts are
    those at the root. -/
theorem partsOf_atRoot (h : (partsOf scheme url).authority ≠ []) :
    (partsOf scheme url).atRoot = partsOf scheme url := by
  have hhead := head?_splitAuthority h
  suffices hpath : rooted (partsOf scheme url).path = (partsOf scheme url).path by
    unfold Parts.atRoot
    rw [hpath]
  unfold partsOf at hhead ⊢
  dsimp only at hhead ⊢
  generalize (splitAuthority (splitScheme scheme (cleaned url)).2).2 = rest at hhead
  -- the path is what stands before the first `?` or `#` of what follows the authority
  rcases head?_splitAt '?' (splitAt '#' rest).1 with hempty | hquestion
  · rw [hempty, rooted_nil]
  rcases head?_splitAt '#' rest with hempty | hhash
  · rw [hempty]
    rfl
  cases hpath : (splitAt '?' (splitAt '#' rest).1).1 with
  | nil => rfl
  | cons c path =>
    apply rooted_of_head
    have hc : rest.head? = some c := by
      rw [← hhash, ← hquestion, hpath]
      rfl
    have hends := hhead c hc
    have hclean := (partsOf_clean scheme url).path
    have hne : c ≠ '?' ∧ c ≠ '#' := by
      have hmem : c ∈ (splitAt '?' (splitAt '#' rest).1).1 := by simp [hpath]
      exact ⟨(mem_splitAt_fst hmem).2, (mem_splitAt_fst (mem_splitAt_fst hmem).1).2⟩
    simp [endsAuthority, hne.1, hne.2] at hends
    simp [hends]

/-! ### Reading back -/

theorem mem_marked {mark c : Char} (h : c ∈ marked mark s) : c = mark ∨ c ∈ s := by
  unfold marked at h
  split at h
  · cases h
  · exact List.mem_cons.mp h

theorem text_of_authority (hscheme : p.scheme ≠ []) (hauthority : p.authority ≠ []) :
    p.text = p.scheme ++ ':' :: '/' :: '/' :: (p.authority
      ++ (rooted p.path ++ marked '?' p.query ++ marked '#' p.fragment)) := by
  unfold Parts.text Parts.place
  rw [if_neg (by simpa using hscheme), if_pos (by simp [hauthority])]
  unfold rooted
  simp

theorem endsAuthority_head? (path query fragment : List Char) :
    ∀ c ∈ (rooted path ++ marked '?' query ++ marked '#' fragment).head?,
      endsAuthority c = true := by
  intro c hc
  rcases head?_rooted path with hempty | hhead
  · rw [hempty] at hc
    cases query with
    | cons d query =>
      cases hc
      rfl
    | nil =>
      cases fragment with
      | cons d fragment =>
        cases hc
        rfl
      | nil => cases hc
  · cases hpath : rooted path with
    | nil =>
      rw [hpath] at hhead
      cases hhead
    | cons d path =>
      rw [hpath] at hhead hc
      cases hhead
      cases hc
      rfl

/-- Clean parts with a scheme of the web and an authority are read back, with the path at the
    root. -/
theorem partsOf_text (hweb : IsWeb p.scheme) (hauthority : p.authority ≠ []) (hclean : p.Clean) :
    partsOf [] p.text = p.atRoot := by
  have htail : ∀ c ∈ rooted p.path ++ marked '?' p.query ++ marked '#' p.fragment,
      isLineNoise c = false := by
    intro c hc
    rcases List.mem_append.mp hc with hc | hc
    · rcases List.mem_append.mp hc with hc | hc
      · rcases mem_rooted hc with rfl | hc
        · rfl
        · exact (hclean.path c hc).2.2
      · rcases mem_marked hc with rfl | hc
        · rfl
        · exact (hclean.query c hc).2
    · rcases mem_marked hc with rfl | hc
      · rfl
      · exact hclean.fragment c hc
  have hrest : ∀ c ∈ '/' :: '/' :: (p.authority
      ++ (rooted p.path ++ marked '?' p.query ++ marked '#' p.fragment)),
        (!isLineNoise c) = true := by
    intro c hc
    rcases List.mem_cons.mp hc with rfl | hc
    · rfl
    rcases List.mem_cons.mp hc with rfl | hc
    · rfl
    rcases List.mem_append.mp hc with hc | hc
    · simp [(hclean.authority c hc).2]
    · simp [htail c hc]
  have hscheme : splitScheme [] (cleaned p.text) = (p.scheme, '/' :: '/' :: (p.authority
      ++ (rooted p.path ++ marked '?' p.query ++ marked '#' p.fragment))) := by
    rw [text_of_authority hweb.ne_nil hauthority, hweb.cleaned, List.filter_eq_self.mpr hrest]
    exact hweb.splitScheme_eq [] _
  have hauthoritySplit : splitAuthority ('/' :: '/' :: (p.authority
      ++ (rooted p.path ++ marked '?' p.query ++ marked '#' p.fragment)))
      = (p.authority, rooted p.path ++ marked '?' p.query ++ marked '#' p.fragment) := by
    have hin : ∀ c ∈ p.authority, (!endsAuthority c) = true := fun c hc => by
      simp [(hclean.authority c hc).1]
    have hout : ∀ c ∈ (rooted p.path ++ marked '?' p.query ++ marked '#' p.fragment).head?,
        (!endsAuthority c) = false := fun c hc => by simp [endsAuthority_head? _ _ _ c hc]
    rw [splitAuthority, takeWhile_run hin hout, dropWhile_run hin hout]
  have hhash : '#' ∉ rooted p.path ++ marked '?' p.query := by
    intro hmem
    rcases List.mem_append.mp hmem with hmem | hmem
    · rcases mem_rooted hmem with hslash | hmem
      · cases hslash
      · exact (hclean.path _ hmem).2.1 rfl
    · rcases mem_marked hmem with hquestion | hmem
      · cases hquestion
      · exact (hclean.query _ hmem).1 rfl
  have hquestion : '?' ∉ rooted p.path := by
    intro hmem
    rcases mem_rooted hmem with hslash | hmem
    · cases hslash
    · exact (hclean.path _ hmem).1 rfl
  unfold partsOf
  dsimp only
  rw [hscheme, hauthoritySplit, splitAt_marked hhash, splitAt_marked hquestion]
  rfl

/-- An address with proper parts is taken apart into them again. -/
theorem split_text (hweb : IsWeb p.scheme) (hauthority : p.authority ≠ []) (hclean : p.Clean)
    (hproper : IsProper p.authority) : split p.text = .ok p.atRoot := by
  have hparts := partsOf_text hweb hauthority hclean
  rw [split_eq_ok]
  refine ⟨?_, hparts.symm⟩
  rw [not_isMalformed_iff, hparts]
  exact hproper

/-! ### What is taken apart -/

section Taken

variable (h : split url = .ok p)

include h

theorem split_clean : p.Clean := by
  obtain ⟨-, rfl⟩ := split_eq_ok.mp h
  exact partsOf_clean [] url

theorem split_proper : IsProper p.authority := by
  obtain ⟨hproper, rfl⟩ := split_eq_ok.mp h
  exact not_isMalformed_iff.mp hproper

theorem split_rooted (hauthority : p.authority ≠ []) : rooted p.path = p.path := by
  obtain ⟨-, rfl⟩ := split_eq_ok.mp h
  exact congrArg Parts.path (partsOf_atRoot hauthority)

/-- An address that names no scheme takes the one that goes without saying. -/
theorem splitWith_of_relative (hrelative : p.scheme = []) (scheme : List Char) :
    splitWith scheme url = .ok { p with scheme } := by
  obtain ⟨hproper, rfl⟩ := split_eq_ok.mp h
  rw [splitWith_eq_ok.mpr ⟨hproper, rfl⟩, partsOf_of_relative hrelative]

end Taken

end Clean

/-! ### References that do not resolve -/

/-- Joining fails exactly if there is something to join and one of the two is malformed. -/
theorem join_error_iff {base url : List Char} :
    (∃ e, join base url = .error e) ↔ base ≠ [] ∧ url ≠ []
      ∧ (IsMalformed base ∨ IsMalformed url) := by
  unfold join
  by_cases hbase : base = []
  · simp [hbase]
  by_cases hurl : url = []
  · simp [hbase, hurl]
  rw [if_neg (by simpa using hbase), if_neg (by simpa using hurl)]
  cases hb : split base with
  | error e => simp [hbase, hurl, splitWith_error_iff.mp ⟨e, hb⟩]
  | ok b =>
    have hproper := (split_eq_ok.mp hb).1
    dsimp only
    cases hr : splitWith b.scheme url with
    | error e => simp [hbase, hurl, splitWith_error_iff.mp ⟨e, hr⟩]
    | ok r =>
      have hproper' := (splitWith_eq_ok.mp hr).1
      dsimp only
      split <;> simp [hproper, hproper']

/-- A reference does not resolve exactly if it is no absolute address and it or the address of
    its page has a malformed authority. -/
theorem full_error_iff {base url : String} : (∃ e, full base url = .error e) ↔
    isAbsolute (Text.trimChars url.toList) = false ∧ base.toList ≠ []
      ∧ Text.trimChars url.toList ≠ []
      ∧ (IsMalformed base.toList ∨ IsMalformed (Text.trimChars url.toList)) := by
  unfold full
  simp only [map_eq_error]
  unfold fullChars
  dsimp only
  by_cases habsolute : isAbsolute (Text.trimChars url.toList) = true
  · simp [habsolute]
  rw [if_neg habsolute]
  by_cases hbase : base.toList = []
  · simp [hbase]
  rw [if_neg (by simpa using hbase), join_error_iff]
  simp [habsolute, hbase]

/-- A name does not stand in brackets. -/
example : full "http://a/s" "//[x]/b"
    = .error (.badValue "'x' does not appear to be an IPv4 or IPv6 address") := by rfl

end Url

end Gleaner
