/-
  Gleaner/Proofs/Url/Search.lean
  ==============================
  **Search addresses.**  A query that is put after the front of an address changes nothing
  but the query (`partsOf_query`), also when the address is resolved against that of a page
  (`full_query`).  So where the place of a template stands in its query, whatever keyword is
  filled in stays between what stands before the place and what stands after it: the other
  parts of the address are always the same, and the keyword can be read back
  (`keyword_stays_in_query`).
-/
import Gleaner.Proofs.Url.Filling
import Gleaner.Proofs.Url.Redirect

namespace Gleaner.Url

/-! ### A query after a front -/

/-- A character that stands for itself in an address, outside its fragment. -/
structure IsPlain (c : Char) : Prop where
  mark : c ≠ '#'
  noise : isFrontNoise c = false
  blank : Text.isBlank c = false

instance (c : Char) : Decidable (IsPlain c) :=
  decidable_of_iff (c ≠ '#' ∧ isFrontNoise c = false ∧ Text.isBlank c = false)
    ⟨fun ⟨h₁, h₂, h₃⟩ => ⟨h₁, h₂, h₃⟩, fun ⟨h₁, h₂, h₃⟩ => ⟨h₁, h₂, h₃⟩⟩

def Plain (s : List Char) : Prop := ∀ c ∈ s, IsPlain c

instance (s : List Char) : Decidable (Plain s) :=
  decidable_of_iff ((s.all fun c => decide (IsPlain c)) = true) (by simp [Plain])

structure IsFront (front : List Char) : Prop where
  plain : Plain front
  unmarked : '?' ∉ front

section Front

variable {c : Char} {s front q : List Char}

theorem IsPlain.lineNoise (h : IsPlain c) : isLineNoise c = false := by
  have hnoise := h.noise
  rw [Bool.eq_false_iff] at hnoise ⊢
  intro hline
  apply hnoise
  simp only [isLineNoise, Bool.or_eq_true, beq_iff_eq] at hline
  rcases hline with (rfl | rfl) | rfl <;> decide

theorem Harmless.plain (h : Harmless c) : IsPlain c := ⟨h.mark.2, h.noise.1, h.blank⟩

theorem cleaned_of_plain (h : Plain s) : cleaned s = s := by
  have hfront : s.dropWhile isFrontNoise = s := by
    cases s with
    | nil => rfl
    | cons c s => simp [(h c List.mem_cons_self).noise]
  rw [cleaned, hfront, List.filter_eq_self]
  exact fun c hc => by simp [(h c hc).lineNoise]

theorem isAbsolute_query (front q : List Char) :
    isAbsolute (front ++ '?' :: q) = isAbsolute front := by
  unfold isAbsolute
  rw [Text.startsWith_append_cons (by decide), Text.startsWith_append_cons (by decide)]

/-- What stands before the first sign of one kind has the sign of another kind that comes
    earlier. -/
theorem mem_before {a b : Char} {before rest : List Char} (ha : a ∉ s)
    (h : s ++ b :: q = before ++ a :: rest) (hne : a ≠ b) : b ∈ before := by
  rcases List.append_eq_append_iff.mp h with ⟨more, rfl, hmore⟩ | ⟨more, rfl, hmore⟩
  · cases more with
    | nil => exact absurd (List.cons.inj hmore).1.symm hne
    | cons d more =>
      obtain ⟨rfl, -⟩ := List.cons.inj hmore
      exact List.mem_append_right _ List.mem_cons_self
  · cases more with
    | nil => exact absurd (List.cons.inj hmore).1 hne
    | cons d more =>
      obtain ⟨rfl, -⟩ := List.cons.inj hmore
      exact absurd (List.mem_append_right _ List.mem_cons_self) ha

/-- A query has no part in the scheme. -/
theorem splitScheme_query (otherwise s q : List Char) : splitScheme otherwise (s ++ '?' :: q)
    = ((splitScheme otherwise s).1, (splitScheme otherwise s).2 ++ '?' :: q) := by
  by_cases hcolon : ':' ∈ s
  · obtain ⟨front, back, rfl, hfront⟩ := List.eq_append_cons_of_mem hcolon
    rw [List.append_assoc, List.cons_append]
    unfold splitScheme
    rw [Text.cutAt?_sign hfront, Text.cutAt?_sign hfront]
    cases front with
    | nil => rfl
    | cons c front =>
      dsimp only
      split <;> simp
  · have hs : splitScheme otherwise s = (otherwise, s) := by
      rw [splitScheme, Text.cutAt?_of_notMem hcolon]
    rw [hs, splitScheme]
    split
    · -- before a colon in the query there is the question mark, which stands in no scheme
      next c front rest hcut =>
      have hmark := mem_before hcolon (Text.cutAt?_eq_some hcut).1 (by decide)
      rw [if_neg]
      intro hletters
      rw [Bool.and_eq_true, List.all_eq_true] at hletters
      rcases List.mem_cons.mp hmark with rfl | hmark
      · exact absurd hletters.1 (by decide)
      · exact absurd (hletters.2 '?' hmark) (by decide)
    · rfl

theorem splitAuthority_of_no_slashes (h : ¬ ∃ r, s = '/' :: '/' :: r) :
    splitAuthority s = ([], s) := by
  unfold splitAuthority
  split
  · next r => exact absurd ⟨r, rfl⟩ h
  · rfl

/-- A query has no part in the authority. -/
theorem splitAuthority_query (s q : List Char) :
    splitAuthority (s ++ '?' :: q) = ((splitAuthority s).1, (splitAuthority s).2 ++ '?' :: q) := by
  by_cases hslashes : ∃ r, s = '/' :: '/' :: r
  · obtain ⟨r, rfl⟩ := hslashes
    have hends : (!endsAuthority '?') = false := by decide
    have hruns := Text.runs_append_cons (p := fun c => !endsAuthority c) hends r q
    exact Prod.ext hruns.1 hruns.2
  · have hquery : ¬ ∃ r, s ++ '?' :: q = '/' :: '/' :: r := by
      rintro ⟨r, hr⟩
      match s with
      | [] => cases hr
      | [_] => cases hr
      | c :: d :: s =>
        cases hr
        exact hslashes ⟨s, rfl⟩
    rw [splitAuthority_of_no_slashes hslashes, splitAuthority_of_no_slashes hquery]

theorem IsFront.plain_query (hfront : IsFront front) (hq : Plain q) :
    Plain (front ++ '?' :: q) := by
  intro c hc
  rcases List.mem_append.mp hc with hc | hc
  · exact hfront.plain c hc
  rcases List.mem_cons.mp hc with rfl | hc
  · decide
  · exact hq c hc

/-- A query that is put after a front is the only part that changes. -/
theorem partsOf_query (hfront : IsFront front) (hq : Plain q) (scheme : List Char) :
    partsOf scheme (front ++ '?' :: q) = { partsOf scheme front with query := q } := by
  have hrest : ∀ c ∈ (splitAuthority (splitScheme scheme front).2).2, c ∈ front :=
    fun c hc => mem_splitScheme (mem_splitAuthority.2 hc)
  have hhash : '#' ∉ front := fun hc => (hfront.plain '#' hc).mark rfl
  unfold partsOf
  rw [cleaned_of_plain (hfront.plain_query hq), cleaned_of_plain hfront.plain, splitScheme_query]
  dsimp only
  rw [splitAuthority_query]
  dsimp only
  generalize (splitAuthority (splitScheme scheme front).2).2 = rest at hrest
  have hnone : '#' ∉ rest ++ '?' :: q := by
    intro hmem
    rcases List.mem_append.mp hmem with hmem | hmem
    · exact hhash (hrest _ hmem)
    rcases List.mem_cons.mp hmem with hmark | hmem
    · cases hmark
    · exact (hq _ hmem).mark rfl
  have hquestion : '?' ∉ rest := fun hc => hfront.unmarked (hrest _ hc)
  rw [splitAt_none hnone, splitAt_none fun hc => hhash (hrest _ hc), splitAt_sign hquestion,
    splitAt_none hquestion]

theorem isMalformed_query (hfront : IsFront front) (hq : Plain q) :
    IsMalformed (front ++ '?' :: q) ↔ IsMalformed front := by
  unfold IsMalformed
  rw [partsOf_query hfront hq]

end Front

/-! ### Resolved addresses -/

section Resolved

variable {base front q : List Char} {b : Parts}

/-- An address with a query is completed like the front before its query. -/
theorem fullChars_query (hbase : base ≠ []) (hfront : IsFront front) (hq : Plain q) :
    fullChars base (front ++ '?' :: q)
      = if isAbsolute front then .ok (front ++ '?' :: q) else join base (front ++ '?' :: q) := by
  have htrim : Text.trimChars (front ++ '?' :: q) = front ++ '?' :: q :=
    Text.trimBy_of_none fun c hc => (hfront.plain_query hq c hc).blank
  unfold fullChars
  dsimp only
  rw [htrim, isAbsolute_query, if_neg (c := base.isEmpty = true) (by simpa using hbase)]

/-- Against an address of the web, the query of a reference is the only part of the result that
    depends on it. -/
theorem full_query (hb : split base = .ok b) (hweb : IsWeb b.scheme) (hauthority : b.authority ≠ [])
    (hfront : IsFront front) (hproper : ¬ IsMalformed front) : ∃ p : Parts, ∀ q, q ≠ [] → Plain q →
      ∃ u, fullChars base (front ++ '?' :: q) = .ok u ∧ split u = .ok { p with query := q } := by
  have hbase := ne_nil_of_split hb hweb
  have hread {scheme q : List Char} (hq : Plain q) :
      splitWith scheme (front ++ '?' :: q) = .ok { partsOf scheme front with query := q } := by
    rw [splitWith_eq_ok, isMalformed_query hfront hq, partsOf_query hfront hq]
    exact ⟨hproper, rfl⟩
  by_cases habsolute : isAbsolute front = true
  · refine ⟨partsOf [] front, fun q _ hq => ⟨front ++ '?' :: q, ?_, hread hq⟩⟩
    rw [fullChars_query hbase hfront hq, if_pos habsolute]
  have hjoin (q : List Char) (hq : Plain q) : fullChars base (front ++ '?' :: q)
      = .ok (if (partsOf b.scheme front).scheme = b.scheme
        then joinParts b { partsOf b.scheme front with query := q } else front ++ '?' :: q) := by
    rw [fullChars_query hbase hfront hq, if_neg habsolute, join_web hb hweb (by simp) (hread hq)]
  by_cases hscheme : (partsOf b.scheme front).scheme = b.scheme
  · let r := partsOf b.scheme front
    refine ⟨⟨b.scheme, eitherAuthority b r, rooted (joinedPath b r), [], r.fragment⟩,
      fun q hne hq => ?_⟩
    refine ⟨_, (hjoin q hq).trans (congrArg Except.ok (if_pos hscheme)), ?_⟩
    rw [split_joined hb hweb hauthority (hread hq) hscheme, joinedQuery_of_ne_nil hne]
    rfl
  · refine ⟨partsOf [] front, fun q _ hq => ⟨front ++ '?' :: q, ?_, hread hq⟩⟩
    rw [hjoin q hq, if_neg hscheme]

end Resolved

/-! ### Templates with a place in the query -/

structure QueryTemplate where
  front : List Char
  before : List Char
  place : Place
  after : List Char
  keyed : place ≠ .page
  plain : Plain (front ++ before ++ after)
  braceless : Braceless (front ++ before ++ after)
  unmarked : '?' ∉ front
  named : before ≠ []

def quoted (keyword : String) : List Char := percentEncode isUnreserved keyword.toList

namespace QueryTemplate

def text (t : QueryTemplate) : String :=
  String.ofList (t.front ++ '?' :: (t.before ++ t.place.text ++ t.after))

def query (t : QueryTemplate) (keyword : String) : List Char :=
  t.before ++ quoted keyword ++ t.after

end QueryTemplate

/-! ### Texts with one place -/

section Filled

variable {c : Char} {s : List Char}

theorem frontPlace?_of_ne (h : c ≠ '{') (s : List Char) : frontPlace? (c :: s) = none := by
  cases hfront : frontPlace? (c :: s) with
  | none => rfl
  | some p =>
    obtain ⟨r, hr⟩ := frontPlace?_eq_some.mp hfront
    exact absurd (List.cons.inj hr).1 h

theorem reading_append (h : Braceless s) (r : List Char) :
    reading (s ++ r) = s.map .char ++ reading r := by
  induction s with
  | nil => rfl
  | cons c s ih =>
    obtain ⟨hc, hs⟩ := List.forall_mem_cons.mp h
    rw [List.cons_append, reading_char (frontPlace?_of_ne hc.1 _), ih hs]
    rfl

theorem write_chars (fill : Place → List Char) (s : List Char) : write fill (s.map .char) = s := by
  induction s with
  | nil => rfl
  | cons c s ih =>
    rw [List.map_cons, write_cons, ih]
    rfl

theorem filling_of_ne_page {p : Place} (h : p ≠ .page) (keyword : String) (page : Int) :
    filling keyword page p = quoted keyword := by
  cases p with
  | page => exact absurd rfl h
  | _ => rfl

/-- A text with one place in it is filled there. -/
theorem fillTemplate_of_place {before after : List Char} {p : Place} (hbefore : Braceless before)
    (hafter : Braceless after) (keyword : String) (page : Int) :
    fillTemplate (String.ofList (before ++ (p.text ++ after))) (some keyword) page
      = String.ofList (before ++ (filling keyword page p ++ after)) := by
  have hread : reading (String.ofList (before ++ (p.text ++ after))).toList
      = before.map .char ++ .place p :: after.map .char := by
    have hrest := reading_append hafter []
    rw [List.append_nil] at hrest
    rw [String.toList_ofList, reading_append hbefore, reading_place, hrest]
    simp [reading, readFrom]
  rw [fillTemplate_of_no_brace, fillOnce, hread, write_append, write_cons, write_chars, write_chars]
  · rfl
  · rw [hread]
    intro hmem
    have hbrace {s : List Char} (hs : Braceless s) : .char '{' ∉ s.map Piece.char := by
      simpa using fun hc => (hs '{' hc).1 rfl
    rcases List.mem_append.mp hmem with hmem | hmem
    · exact hbrace hbefore hmem
    rcases List.mem_cons.mp hmem with hplace | hmem
    · cases hplace
    · exact hbrace hafter hmem

end Filled

/-! ### Search addresses -/

section Search

variable {base : String} {b : Parts} {t : QueryTemplate}

theorem quoted_injective : Function.Injective quoted := by
  intro k k' h
  have hchars := congrArg unquote h
  rw [quoted, quoted, unquote_percentEncode, unquote_percentEncode] at hchars
  exact String.toList_injective hchars

namespace QueryTemplate

theorem isFront (t : QueryTemplate) : IsFront t.front where
  plain c hc := t.plain c (List.mem_append_left _ (List.mem_append_left _ hc))
  unmarked := t.unmarked

theorem plain_query (t : QueryTemplate) (keyword : String) : Plain (t.query keyword) := by
  intro c hc
  rcases List.mem_append.mp hc with hc | hc
  · rcases List.mem_append.mp hc with hc | hc
    · exact t.plain c (List.mem_append_left _ (List.mem_append_right _ hc))
    · exact ((escaped_percentEncode keyword.toList).harmless c hc).plain
  · exact t.plain c (List.mem_append_right _ hc)

theorem query_ne_nil (t : QueryTemplate) (keyword : String) : t.query keyword ≠ [] := by
  simp [query, t.named]

theorem trim_text (t : QueryTemplate) : Text.trim t.text = t.text := by
  have hplace : (t.place.text.all fun c => !Text.isBlank c) = true := by
    cases t.place <;> rfl
  have hblank : ∀ c ∈ t.text.toList, Text.isBlank c = false := by
    intro c hc
    have hplain := t.plain c
    simp only [text, String.toList_ofList, List.mem_append, List.mem_cons] at hc hplain
    rcases hc with hc | rfl | (hc | hc) | hc
    · exact (hplain (.inl (.inl hc))).blank
    · decide
    · exact (hplain (.inl (.inr hc))).blank
    · simpa using List.all_eq_true.mp hplace c hc
    · exact (hplain (.inr hc)).blank
  rw [Text.trim, Text.trimChars, Text.trimBy_of_none hblank, String.ofList_toList]

/-- What is searched for is filled into the query, and the address then completed. -/
theorem searchUrl_text (t : QueryTemplate) (base keyword : String) (page : Int) :
    searchUrl base t.text keyword page
      = (fullChars base.toList (t.front ++ '?' :: t.query keyword)).map String.ofList := by
  have hbefore : Braceless (t.front ++ '?' :: t.before) := by
    intro c hc
    have hnone := t.braceless c
    simp only [List.mem_append, List.mem_cons] at hc hnone
    rcases hc with hc | rfl | hc
    · exact hnone (.inl (.inl hc))
    · decide
    · exact hnone (.inl (.inr hc))
  have hafter : Braceless t.after := fun c hc => t.braceless c (List.mem_append_right _ hc)
  have hfill := fillTemplate_of_place (p := t.place) hbefore hafter keyword page
  have htext :
      t.text = String.ofList (t.front ++ '?' :: t.before ++ (t.place.text ++ t.after)) := by
    simp [text]
  rw [searchUrl, full, trim_text, htext, hfill, filling_of_ne_page t.keyed,
    String.toList_ofList, query]
  simp

end QueryTemplate

/-- Where building raises nothing, the front of the template is not malformed. -/
theorem not_isMalformed_front {keyword : String} {page : Int} {u : String}
    (hb : split base.toList = .ok b) (hweb : IsWeb b.scheme)
    (hbuilt : searchUrl base t.text keyword page = .ok u)
    (hread : isAbsolute t.front = true → ∃ l, split u.toList = .ok l) : ¬ IsMalformed t.front := by
  have hq := t.plain_query keyword
  rw [t.searchUrl_text, map_eq_ok] at hbuilt
  obtain ⟨v, hfull, rfl⟩ := hbuilt
  rw [fullChars_query (ne_nil_of_split hb hweb) t.isFront hq] at hfull
  rw [← isMalformed_query t.isFront hq]
  by_cases habsolute : isAbsolute t.front = true
  · -- an absolute address is built without taking it apart
    rw [if_pos habsolute] at hfull
    cases hfull
    obtain ⟨l, hl⟩ := hread habsolute
    rw [String.toList_ofList] at hl
    exact (split_eq_ok.mp hl).1
  · rw [if_neg habsolute] at hfull
    intro hmalformed
    obtain ⟨e, he⟩ := join_error_iff.mpr ⟨ne_nil_of_split hb hweb, by simp, .inr hmalformed⟩
    rw [he] at hfull
    cases hfull

/-- Where one search address can be built, and taken apart if the template is an absolute address,
    all can.  A keyword stands in the query, between what is around its place, and can be read back
    from there; the other parts are the same for all keywords.  So different keywords have different
    addresses. -/
theorem keyword_stays_in_query {keyword : String} {page : Int} {u : String}
    (hb : split base.toList = .ok b) (hweb : IsWeb b.scheme) (hauthority : b.authority ≠ [])
    (hbuilt : searchUrl base t.text keyword page = .ok u)
    (hread : isAbsolute t.front = true → ∃ l, split u.toList = .ok l) :
    (∃ p : Parts, ∀ k n, ∃ v, searchUrl base t.text k n = .ok v
      ∧ split v.toList = .ok { p with query := t.before ++ quoted k ++ t.after })
    ∧ (∀ k, Escaped (quoted k) ∧ unquote (quoted k) = k.toList)
    ∧ ∀ k k' n n', searchUrl base t.text k n = searchUrl base t.text k' n' → k = k' := by
  have hproper := not_isMalformed_front hb hweb hbuilt hread
  obtain ⟨p, hp⟩ := full_query hb hweb hauthority t.isFront hproper
  have hstays (k : String) (n : Int) : ∃ v, searchUrl base t.text k n = .ok v
      ∧ split v.toList = .ok { p with query := t.query k } := by
    obtain ⟨v, hfull, hsplit⟩ := hp (t.query k) (t.query_ne_nil k) (t.plain_query k)
    refine ⟨String.ofList v, ?_, ?_⟩
    · rw [t.searchUrl_text, hfull]
      rfl
    · rwa [String.toList_ofList]
  refine ⟨⟨p, hstays⟩,
    fun k => ⟨escaped_percentEncode k.toList, unquote_percentEncode k.toList⟩, ?_⟩
  intro k k' n n' hsame
  obtain ⟨v, hv, hquery⟩ := hstays k n
  obtain ⟨v', hv', hquery'⟩ := hstays k' n'
  rw [hv, hv'] at hsame
  cases hsame
  rw [hquery] at hquery'
  have hparts := congrArg Parts.query (Except.ok.inj hquery')
  exact quoted_injective (List.append_cancel_left (List.append_cancel_right hparts))

/-- Searches on another host than that of the page. -/
def elsewhere : QueryTemplate where
  front := "https://b/s".toList
  before := "q=".toList
  place := .keyword
  after := "&t=1".toList
  keyed := by decide
  plain := by decide
  braceless := by decide
  unmarked := by decide
  named := by decide

theorem elsewhere_stays_in_query :
    searchUrl "http://a" elsewhere.text "" 1 = .ok "https://b/s?q=&t=1"
    ∧ (∃ p : Parts, ∀ k n, ∃ v, searchUrl "http://a" elsewhere.text k n = .ok v
      ∧ split v.toList = .ok { p with query := "q=".toList ++ quoted k ++ "&t=1".toList })
    ∧ (∀ k, Escaped (quoted k) ∧ unquote (quoted k) = k.toList)
    ∧ ∀ k k' n n', searchUrl "http://a" elsewhere.text k n
      = searchUrl "http://a" elsewhere.text k' n' → k = k' := by
  have hbuilt : searchUrl "http://a" elsewhere.text "" 1 = .ok "https://b/s?q=&t=1" := by rfl
  have hbase : split "http://a".toList = .ok ⟨"http".toList, ['a'], [], [], []⟩ := by rfl
  have hread : split "https://b/s?q=&t=1".toList
      = .ok ⟨"https".toList, ['b'], "/s".toList, "q=&t=1".toList, []⟩ := by rfl
  exact ⟨hbuilt, keyword_stays_in_query hbase (.inl rfl) (by simp) hbuilt fun _ => ⟨_, hread⟩⟩

example :
    searchUrl "http://a/b/c" "../s?q=\x7bkey\x7d" "x y&z" 1 = .ok "http://a/s?q=x%20y%26z" := by rfl

/-- A template whose front is an authority with one bracket alone. -/
def unclosed : QueryTemplate where
  front := "http://[".toList
  before := "q=".toList
  place := .key
  after := []
  keyed := by decide
  plain := by decide
  braceless := by decide
  unmarked := by decide
  named := by decide

/-- An absolute address is built from any keyword, also where it cannot be taken apart. -/
theorem unclosed_is_built_not_read :
    split "http://a".toList = .ok ⟨"http".toList, ['a'], [], [], []⟩
    ∧ unclosed.text = "http://[?q=\x7bkey\x7d"
    ∧ (∀ k n, ∃ u, searchUrl "http://a" unclosed.text k n = .ok u)
    ∧ searchUrl "http://a" unclosed.text "k" 1 = .ok "http://[?q=k"
    ∧ split "http://[?q=k".toList = .error (.badValue "Invalid IPv6 URL") := by
  refine ⟨rfl, rfl, fun k n => ?_, rfl, rfl⟩
  have habsolute : isAbsolute unclosed.front = true := by decide
  rw [unclosed.searchUrl_text,
    fullChars_query (by decide) unclosed.isFront (unclosed.plain_query k), if_pos habsolute]
  exact ⟨_, rfl⟩

end Search

end Gleaner.Url
