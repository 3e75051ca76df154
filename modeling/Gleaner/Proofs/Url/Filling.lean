/-
  Gleaner/Proofs/Url/Filling.lean
  ===============================
  **Templates filled in.**  Read once from the left, a template consists of places and of the
  characters between them (`reading`), and to fill each place of this reading is to fill the
  template in one pass (`fillOnce`).  `fillTemplate` goes through the text once for each kind
  of place instead.  The two agree exactly if nothing that is filled in completes a place of a
  later kind, together with text of the template and with braces of it around both
  (`fillTemplate_eq_fillOnce_iff`).
-/
import Gleaner.Proofs.Text.Decimal
import Gleaner.Proofs.Text.Trim
import Gleaner.Proofs.Url.Percent
import Gleaner.Url.Template

namespace Gleaner

/-! ### Replacing from the left -/

namespace Text

variable {old new s : List Char} {c : Char}

theorem replaceFrom_eq_drop (old new : List Char) (skip : Nat) (s : List Char) :
    replaceFrom old new skip s = replaceAll old new (s.drop skip) := by
  induction s generalizing skip with
  | nil => cases skip <;> rfl
  | cons c s ih =>
    cases skip with
    | zero => rfl
    | succ skip => exact ih skip

theorem replaceAll_front (hold : old ≠ []) (new s : List Char) :
    replaceAll old new (old ++ s) = new ++ replaceAll old new s := by
  obtain ⟨c, more, rfl⟩ := List.exists_cons_of_ne_nil hold
  have hstarts : startsWith (c :: more) (c :: (more ++ s)) = true := startsWith_iff.mpr ⟨s, rfl⟩
  rw [List.cons_append, replaceAll, replaceFrom, if_pos hstarts, replaceFrom_eq_drop]
  simp

theorem replaceAll_cons (h : ¬ ∃ r, c :: s = old ++ r) (new : List Char) :
    replaceAll old new (c :: s) = c :: replaceAll old new s := by
  rw [replaceAll, replaceFrom, if_neg fun hstarts => h (startsWith_iff.mp hstarts)]
  rfl

end Text

namespace Url

/-! ### Places -/

inductive Place where
  | key
  | keyword
  | page
deriving DecidableEq, Repr

namespace Place

def name : Place → List Char
  | .key => "key".toList
  | .keyword => "keyword".toList
  | .page => "page".toList

/-- The place as it stands in a template: its name in braces. -/
def text (p : Place) : List Char := '{' :: (p.name ++ ['}'])

def earlier : Place → List Place
  | .key => []
  | .keyword => [.key]
  | .page => [.key, .keyword]

end Place

def frontPlace? (s : List Char) : Option Place :=
  [Place.key, .keyword, .page].find? fun p => Text.startsWith p.text s

def Braceless (s : List Char) : Prop := ∀ c ∈ s, c ≠ '{' ∧ c ≠ '}'

instance (s : List Char) : Decidable (Braceless s) :=
  decidable_of_iff ((s.all fun c => c != '{' && c != '}') = true) (by simp [Braceless])

section Places

variable {p q : Place} {s r r' : List Char}

theorem braceless_name (p : Place) : Braceless p.name := by
  cases p <;> decide

theorem text_ne_nil (p : Place) : p.text ≠ [] := List.cons_ne_nil _ _

theorem text_append (p : Place) (s : List Char) : p.text ++ s = '{' :: (p.name ++ '}' :: s) := by
  simp [Place.text]

theorem frontPlace?_text (p : Place) (r : List Char) : frontPlace? (p.text ++ r) = some p := by
  cases p <;> rfl

theorem frontPlace?_eq_some : frontPlace? s = some p ↔ ∃ r, s = p.text ++ r := by
  constructor
  · intro h
    unfold frontPlace? at h
    have hstarts := List.find?_some h
    exact Text.startsWith_iff.mp hstarts
  · rintro ⟨r, rfl⟩
    exact frontPlace?_text p r

/-- Only one place stands at the front of a text. -/
theorem text_append_inj (h : p.text ++ r = q.text ++ r') : p = q := by
  have hfront := frontPlace?_text p r
  rw [h, frontPlace?_text q r'] at hfront
  exact (Option.some.inj hfront).symm

end Places

/-! ### Readings -/

inductive Piece where
  | char (c : Char)
  | place (p : Place)
deriving DecidableEq, Repr

/-- The pieces of a text; `skip` characters still belong to the place last seen. -/
def readFrom : Nat → List Char → List Piece
  | _, [] => []
  | skip + 1, _ :: s => readFrom skip s
  | 0, c :: s =>
      match frontPlace? (c :: s) with
      | some p => .place p :: readFrom (p.text.length - 1) s
      | none => .char c :: readFrom 0 s

/-- The pieces of a template, read once from the left. -/
def reading (s : List Char) : List Piece := readFrom 0 s

def Piece.written (fill : Place → List Char) : Piece → List Char
  | .char c => [c]
  | .place p => fill p

/-- The pieces one after another, with every place filled. -/
def write (fill : Place → List Char) (pieces : List Piece) : List Char :=
  pieces.flatMap (Piece.written fill)

def filling (keyword : String) (page : Int) : Place → List Char
  | .page => pageText page
  | _ => percentEncode isUnreserved keyword.toList

/-- The template with all its places filled at once. -/
def fillOnce (template keyword : String) (page : Int) : String :=
  String.ofList (write (filling keyword page) (reading template.toList))

section Reading

variable {s : List Char} {c : Char} {fill : Place → List Char} {pieces more : List Piece}

theorem readFrom_eq_drop (skip : Nat) (s : List Char) :
    readFrom skip s = reading (s.drop skip) := by
  induction s generalizing skip with
  | nil => cases skip <;> rfl
  | cons c s ih =>
    cases skip with
    | zero => rfl
    | succ skip => exact ih skip

/-- A place is read as one piece. -/
theorem reading_place (p : Place) (s : List Char) :
    reading (p.text ++ s) = .place p :: reading s := by
  have hfront := frontPlace?_text p s
  rw [Place.text, List.cons_append] at hfront ⊢
  rw [reading, readFrom, hfront]
  dsimp only
  rw [readFrom_eq_drop]
  simp [Place.text]

theorem reading_char (h : frontPlace? (c :: s) = none) :
    reading (c :: s) = .char c :: reading s := by
  rw [reading, readFrom, h]
  rfl

/-- A text is empty, or it starts with a place, or with a character that starts no place. -/
theorem text_induction {motive : List Char → Prop} (nil : motive [])
    (place : ∀ (p : Place) s, motive s → motive (p.text ++ s))
    (char : ∀ c s, frontPlace? (c :: s) = none → motive s → motive (c :: s)) (s : List Char) :
    motive s := by
  induction hlength : s.length using Nat.strong_induction_on generalizing s with
  | _ n ih =>
    cases s with
    | nil => exact nil
    | cons c s =>
      cases hfront : frontPlace? (c :: s) with
      | none => exact char c s hfront (ih s.length (by simp [← hlength]) s rfl)
      | some p =>
        obtain ⟨r, hr⟩ := frontPlace?_eq_some.mp hfront
        have hshorter : r.length < n := by
          rw [← hlength, hr, List.length_append, Place.text, List.length_cons]
          omega
        rw [hr]
        exact place p r (ih r.length hshorter r rfl)

theorem write_cons (fill : Place → List Char) (piece : Piece) (more : List Piece) :
    write fill (piece :: more) = piece.written fill ++ write fill more := List.flatMap_cons

theorem write_append (fill : Place → List Char) (pieces more : List Piece) :
    write fill (pieces ++ more) = write fill pieces ++ write fill more := List.flatMap_append

/-- A reading loses nothing. -/
theorem write_reading (s : List Char) : write Place.text (reading s) = s := by
  induction s using text_induction with
  | nil => rfl
  | place p s ih =>
    rw [reading_place, write_cons, ih]
    rfl
  | char c s h ih =>
    rw [reading_char h, write_cons, ih]
    rfl

/-- A character that is read as such starts no place. -/
theorem frontPlace?_of_reading (h : .char c :: more <:+ reading s) :
    frontPlace? (c :: write Place.text more) = none := by
  induction s using text_induction with
  | nil => exact absurd (List.suffix_nil.mp h) (List.cons_ne_nil _ _)
  | place p s ih =>
    rw [reading_place] at h
    rcases List.suffix_cons_iff.mp h with h | h
    · cases h
    · exact ih h
  | char d s hfront ih =>
    rw [reading_char hfront] at h
    rcases List.suffix_cons_iff.mp h with h | h
    · cases h
      rwa [write_reading]
    · exact ih h

end Reading

/-! ### Places that are completed -/

/-- How places are written when these are filled and the others are not. -/
def stage (fill : Place → List Char) (done : List Place) (q : Place) : List Char :=
  if q ∈ done then fill q else q.text

/-- Between two braces of the template there is text, with places in it that are filled before
    this one, that then spells the name of the place. -/
def Completes (fill : Place → List Char) (p : Place) (pieces : List Piece) : Prop :=
  ∃ before between after, pieces = before ++ .char '{' :: (between ++ .char '}' :: after)
    ∧ (∀ q, .place q ∈ between → q ∈ p.earlier) ∧ write fill between = p.name

/-- How many opening braces of the template are left. -/
def opens (pieces : List Piece) : Nat := pieces.count (.char '{')

section Completes

variable {fill : Place → List Char} {p q : Place} {c : Char} {pieces more : List Piece}
  {name r u s : List Char}

theorem Completes.cons {piece : Piece} (h : Completes fill p more) :
    Completes fill p (piece :: more) := by
  obtain ⟨before, between, after, rfl, hearlier, hname⟩ := h
  exact ⟨piece :: before, between, after, rfl, hearlier, hname⟩

/-- Text that completes a name goes on past a place that is filled. -/
theorem Completes.of_place (h : Completes fill p (.place q :: more)) : Completes fill p more := by
  obtain ⟨before, between, after, hpieces, hearlier, hname⟩ := h
  cases before with
  | nil => cases hpieces
  | cons piece before =>
    cases hpieces
    exact ⟨before, between, after, rfl, hearlier, hname⟩

/-- Where only earlier places stand, they are filled already. -/
theorem write_stage (h : ∀ q, .place q ∈ pieces → q ∈ p.earlier) :
    write (stage fill p.earlier) pieces = write fill pieces := by
  induction pieces with
  | nil => rfl
  | cons piece pieces ih =>
    rw [write_cons, write_cons, ih fun q hq => h q (List.mem_cons_of_mem piece hq)]
    cases piece with
    | char c => rfl
    | place q =>
      rw [Piece.written, Piece.written, stage, if_pos (h q List.mem_cons_self)]

/-- A place that is completed stands in the text when it is about to be filled. -/
theorem Completes.of_char (h : Completes fill p (.char c :: more)) :
    (∃ r, c :: write (stage fill p.earlier) more = p.text ++ r) ∨ Completes fill p more := by
  obtain ⟨before, between, after, hpieces, hearlier, hname⟩ := h
  cases before with
  | nil =>
    cases hpieces
    refine .inl ⟨write (stage fill p.earlier) after, ?_⟩
    rw [write_append, write_stage hearlier, hname, write_cons, text_append]
    rfl
  | cons piece before =>
    cases hpieces
    exact .inr ⟨before, between, after, rfl, hearlier, hname⟩

theorem split_braceless (hu : Braceless u) (h : u ++ s = name ++ '}' :: r) :
    ∃ front, name = u ++ front ∧ s = front ++ '}' :: r := by
  induction u generalizing name with
  | nil => exact ⟨name, rfl, h⟩
  | cons c u ih =>
    obtain ⟨hc, hmore⟩ := List.forall_mem_cons.mp hu
    cases name with
    | nil => exact absurd (List.cons.inj h).1 hc.2
    | cons d name =>
      obtain ⟨rfl, hrest⟩ := List.cons.inj h
      obtain ⟨front, rfl, hs⟩ := ih hmore hrest
      exact ⟨front, rfl, hs⟩

/-- Text without braces before a closing brace comes from pieces before that brace. -/
theorem split_at_close {σ : Place → List Char}
    (hσ : ∀ q, Braceless (σ q) ∨ ∃ more, σ q = '{' :: more) (hname : Braceless name)
    (h : write σ pieces = name ++ '}' :: r) :
    ∃ between after, pieces = between ++ .char '}' :: after ∧ write σ between = name
      ∧ ∀ q, .place q ∈ between → Braceless (σ q) := by
  induction pieces generalizing name with
  | nil => exact absurd h.symm (by simp [write])
  | cons piece pieces ih =>
    rw [write_cons] at h
    cases piece with
    | char c =>
      cases name with
      | nil =>
        obtain ⟨rfl, -⟩ := List.cons.inj h
        exact ⟨[], pieces, rfl, rfl, fun q hq => nomatch hq⟩
      | cons d name =>
        obtain ⟨rfl, hrest⟩ := List.cons.inj h
        obtain ⟨between, after, rfl, rfl, hplaces⟩ := ih (List.forall_mem_cons.mp hname).2 hrest
        refine ⟨.char c :: between, after, rfl, rfl, ?_⟩
        intro q hq
        rcases List.mem_cons.mp hq with hq | hq
        · cases hq
        · exact hplaces q hq
    | place q =>
      rcases hσ q with hbraceless | ⟨rest, hbrace⟩
      · obtain ⟨front, rfl, hrest⟩ := split_braceless hbraceless h
        have hfront : Braceless front := fun d hd => hname d (List.mem_append_right _ hd)
        obtain ⟨between, after, rfl, rfl, hplaces⟩ := ih hfront hrest
        refine ⟨.place q :: between, after, rfl, rfl, ?_⟩
        intro q' hq'
        rcases List.mem_cons.mp hq' with hq' | hq'
        · cases hq'
          exact hbraceless
        · exact hplaces q' hq'
      · rw [Piece.written, hbrace] at h
        cases name with
        | nil => cases h
        | cons d name =>
          obtain ⟨rfl, -⟩ := List.cons.inj h
          exact absurd rfl (hname '{' List.mem_cons_self).1

end Completes

/-! ### Filling one place after another -/

/-- Filling every place of one kind in the text leaves the second pieces of the first ones:
    they are the same, unless places are completed, which take braces of the template. -/
structure Fills (fill : Place → List Char) (p : Place) (pieces left : List Piece) : Prop where
  text : Text.replaceAll p.text (fill p) (write (stage fill p.earlier) pieces)
    = write (stage fill (p.earlier ++ [p])) left
  fewer : Completes fill p pieces → opens left < opens pieces
  same : ¬ Completes fill p pieces → left = pieces

section Fills

variable {fill : Place → List Char} {p q : Place} {c : Char}
  {pieces more left between after : List Piece} {r u : List Char}

theorem replaceAll_text_cons (h : c ≠ '{') (p : Place) (new s : List Char) :
    Text.replaceAll p.text new (c :: s) = c :: Text.replaceAll p.text new s := by
  apply Text.replaceAll_cons
  rintro ⟨r, hr⟩
  exact h (List.cons.inj hr).1

theorem replaceAll_text_append (h : ∀ c ∈ u, c ≠ '{') (p : Place) (new s : List Char) :
    Text.replaceAll p.text new (u ++ s) = u ++ Text.replaceAll p.text new s := by
  induction u with
  | nil => rfl
  | cons c u ih =>
    obtain ⟨hc, hmore⟩ := List.forall_mem_cons.mp h
    rw [List.cons_append, replaceAll_text_cons hc, ih hmore]
    rfl

theorem replaceAll_text_other (h : q ≠ p) (new s : List Char) :
    Text.replaceAll p.text new (q.text ++ s) = q.text ++ Text.replaceAll p.text new s := by
  have hnone : ¬ ∃ r, '{' :: (q.name ++ '}' :: s) = p.text ++ r := by
    rintro ⟨r, hr⟩
    rw [← text_append] at hr
    exact h (text_append_inj hr)
  have hname : ∀ c ∈ q.name, c ≠ '{' := fun c hc => (braceless_name q c hc).1
  rw [text_append, Text.replaceAll_cons hnone, replaceAll_text_append hname,
    replaceAll_text_cons (by decide), text_append]

theorem Fills.opens_le (h : Fills fill p pieces left) : opens left ≤ opens pieces := by
  by_cases hcompletes : Completes fill p pieces
  · exact (h.fewer hcompletes).le
  · rw [h.same hcompletes]

theorem notMem_earlier (p : Place) : p ∉ p.earlier := by
  cases p <;> decide

theorem fills_nil : Fills fill p [] [] where
  text := rfl
  fewer := by
    rintro ⟨before, between, after, hpieces, -⟩
    exact absurd hpieces (by simp)
  same _ := rfl

theorem Fills.place (hfill : ∀ q, Braceless (fill q)) (h : Fills fill p more left) (q : Place) :
    Fills fill p (.place q :: more) (.place q :: left) where
  text := by
    rw [write_cons, write_cons, Piece.written, Piece.written, ← h.text]
    by_cases hq : q = p
    · subst hq
      rw [stage, stage, if_neg (notMem_earlier q), if_pos (by simp)]
      exact Text.replaceAll_front (text_ne_nil q) _ _
    · have hsame : stage fill (p.earlier ++ [p]) q = stage fill p.earlier q := by
        simp [stage, hq]
      rw [hsame, stage]
      split
      · exact replaceAll_text_append (fun c hc => (hfill q c hc).1) _ _ _
      · exact replaceAll_text_other hq _ _
  fewer hcompletes := by
    have hfewer := h.fewer hcompletes.of_place
    simpa [opens] using hfewer
  same hnone := by
    rw [h.same fun hcompletes => hnone hcompletes.cons]

theorem Fills.char (h : Fills fill p more left)
    (hnone : ¬ ∃ r, c :: write (stage fill p.earlier) more = p.text ++ r) :
    Fills fill p (.char c :: more) (.char c :: left) where
  text := by
    rw [write_cons, write_cons, ← h.text]
    exact Text.replaceAll_cons hnone _
  fewer hcompletes := by
    have hfewer := h.fewer (hcompletes.of_char.resolve_left hnone)
    unfold opens at hfewer ⊢
    rw [List.count_cons, List.count_cons]
    omega
  same hother := by
    rw [h.same fun hcompletes => hother hcompletes.cons]

/-- A place that is completed is filled in its turn. -/
theorem Fills.completed (h : Fills fill p after left)
    (hearlier : ∀ q, .place q ∈ between → q ∈ p.earlier) (hname : write fill between = p.name) :
    Fills fill p (.char '{' :: (between ++ .char '}' :: after)) (.place p :: left) where
  text := by
    have hwritten : write (stage fill p.earlier) (.char '{' :: (between ++ .char '}' :: after))
        = p.text ++ write (stage fill p.earlier) after := by
      rw [write_cons, write_append, write_stage hearlier, hname, write_cons, text_append]
      rfl
    rw [hwritten, Text.replaceAll_front (text_ne_nil p), h.text, write_cons, Piece.written, stage,
      if_pos (by simp)]
  fewer _ := by
    have hle := h.opens_le
    unfold opens at hle ⊢
    rw [List.count_cons_of_ne (by simp), List.count_cons_self, List.count_append,
      List.count_cons_of_ne (by simp)]
    omega
  same hnone := absurd ⟨[], between, after, rfl, hearlier, hname⟩ hnone

/-- A place that stands in the text at a brace of the template is completed there. -/
theorem completed_at_front (hfill : ∀ q, Braceless (fill q))
    (h : c :: write (stage fill p.earlier) more = p.text ++ r) :
    c = '{' ∧ ∃ between after, more = between ++ .char '}' :: after
      ∧ (∀ q, .place q ∈ between → q ∈ p.earlier) ∧ write fill between = p.name := by
  rw [text_append] at h
  obtain ⟨rfl, hrest⟩ := List.cons.inj h
  have hstage : ∀ q, Braceless (stage fill p.earlier q)
      ∨ ∃ more, stage fill p.earlier q = '{' :: more := by
    intro q
    unfold stage
    split
    · exact .inl (hfill q)
    · exact .inr ⟨_, rfl⟩
  obtain ⟨between, after, rfl, hname, hplaces⟩ := split_at_close hstage (braceless_name p) hrest
  have hearlier : ∀ q, .place q ∈ between → q ∈ p.earlier := by
    intro q hq
    by_contra hlater
    have hbraceless := hplaces q hq
    rw [stage, if_neg hlater] at hbraceless
    exact (hbraceless '{' List.mem_cons_self).1 rfl
  rw [write_stage hearlier] at hname
  exact ⟨rfl, between, after, rfl, hearlier, hname⟩

/-- Filling one kind of place leaves pieces of the template, by induction on them. -/
theorem exists_fills (hfill : ∀ q, Braceless (fill q)) (p : Place) (pieces : List Piece) :
    ∃ left, Fills fill p pieces left := by
  induction hlength : pieces.length using Nat.strong_induction_on generalizing pieces with
  | _ n ih =>
    rcases pieces with _ | ⟨c | q, more⟩
    · exact ⟨[], fills_nil⟩
    · by_cases hfront : ∃ r, c :: write (stage fill p.earlier) more = p.text ++ r
      · obtain ⟨r, hr⟩ := hfront
        obtain ⟨rfl, between, after, rfl, hearlier, hname⟩ := completed_at_front hfill hr
        obtain ⟨left, h⟩ := ih after.length (by simp [← hlength]; omega) after rfl
        exact ⟨.place p :: left, h.completed hearlier hname⟩
      · obtain ⟨left, h⟩ := ih more.length (by simp [← hlength]) more rfl
        exact ⟨.char c :: left, h.char hfront⟩
    · obtain ⟨left, h⟩ := ih more.length (by simp [← hlength]) more rfl
      exact ⟨.place q :: left, h.place hfill q⟩

end Fills

/-! ### The whole template -/

section Template

variable {fill : Place → List Char}

/-- The places of the first kind are all read as places. -/
theorem not_completes_key (fill : Place → List Char) (s : List Char) :
    ¬ Completes fill .key (reading s) := by
  rintro ⟨before, between, after, hpieces, hearlier, hname⟩
  have hunfilled : stage fill Place.key.earlier = Place.text := rfl
  have hfront := frontPlace?_of_reading ⟨before, hpieces.symm⟩
  rw [← write_stage hearlier, hunfilled] at hname
  rw [write_append, hname, write_cons, Piece.written, List.singleton_append, ← text_append .key,
    frontPlace?_text] at hfront
  cases hfront

theorem count_write (hfill : ∀ q, Braceless (fill q)) (pieces : List Piece) :
    (write fill pieces).count '{' = opens pieces := by
  induction pieces with
  | nil => rfl
  | cons piece pieces ih =>
    rw [write_cons, List.count_append, ih]
    unfold opens
    cases piece with
    | char c => by_cases hc : c = '{' <;> simp [Piece.written, hc, Nat.add_comm]
    | place q =>
      have hnone : (fill q).count '{' = 0 :=
        List.count_eq_zero.mpr fun hmem => (hfill q '{' hmem).1 rfl
      rw [Piece.written, hnone, Nat.zero_add, List.count_cons_of_ne (by simp)]

/-- After the last kind of place every place is filled. -/
theorem stage_all (fill : Place → List Char) :
    stage fill (Place.page.earlier ++ [.page]) = fill := by
  funext q
  cases q <;> rfl

theorem braceless_pageText (page : Int) : Braceless (pageText page) := by
  obtain ⟨n, hn⟩ := Int.eq_ofNat_of_zero_le (Int.le_trans (by decide) (Int.le_max_right page 1))
  have hdigits : pageText page = Nat.toDigits 10 n := by
    rw [pageText, hn]
    simp [Int.repr]
  intro c hc
  rw [hdigits] at hc
  exact Text.forall_digit (p := fun c => c ≠ '{' ∧ c ≠ '}') (by decide)
    (Text.toDigits_digits n c hc)

theorem braceless_filling (keyword : String) (page : Int) (p : Place) :
    Braceless (filling keyword page p) := by
  have hkeyword : Braceless (percentEncode isUnreserved keyword.toList) := fun c hc =>
    ((escaped_percentEncode keyword.toList).harmless c hc).brace
  cases p with
  | key => exact hkeyword
  | keyword => exact hkeyword
  | page => exact braceless_pageText page

variable (template keyword : String) (page : Int)

/-- A template that is filled in comes of pieces with all places filled: those of its reading,
    or, if a place is completed, others with fewer braces. -/
theorem fillTemplate_pieces : ∃ left,
    fillTemplate template (some keyword) page = String.ofList (write (filling keyword page) left)
    ∧ ((∃ p, Completes (filling keyword page) p (reading template.toList)) →
      opens left < opens (reading template.toList))
    ∧ ((∀ p, ¬ Completes (filling keyword page) p (reading template.toList)) →
      left = reading template.toList) := by
  have hfill := braceless_filling keyword page
  have hread := write_reading template.toList
  have hkey := not_completes_key (filling keyword page) template.toList
  unfold fillTemplate fillKeyword
  dsimp only
  generalize reading template.toList = pieces at hread hkey ⊢
  obtain ⟨first, hfirst⟩ := exists_fills hfill .key pieces
  rw [hfirst.same hkey] at hfirst
  obtain ⟨second, hsecond⟩ := exists_fills hfill .keyword pieces
  obtain ⟨third, hthird⟩ := exists_fills hfill .page second
  refine ⟨third, ?_, ?_, ?_⟩
  · have htext₁ :
        Text.replaceAll keyPlace (percentEncode isUnreserved keyword.toList) template.toList
          = write (stage (filling keyword page) Place.keyword.earlier) pieces :=
      hread ▸ hfirst.text
    have htext₂ : Text.replaceAll keywordPlace (percentEncode isUnreserved keyword.toList)
        (write (stage (filling keyword page) Place.keyword.earlier) pieces)
        = write (stage (filling keyword page) Place.page.earlier) second := hsecond.text
    have htext₃ : Text.replaceAll pagePlace (pageText page)
        (write (stage (filling keyword page) Place.page.earlier) second)
        = write (filling keyword page) third :=
      hthird.text.trans (by rw [stage_all])
    rw [htext₁, htext₂, htext₃]
  · rintro ⟨p, hp⟩
    by_cases hkeyword : Completes (filling keyword page) .keyword pieces
    · exact hthird.opens_le.trans_lt (hsecond.fewer hkeyword)
    · rw [hsecond.same hkeyword] at hthird
      cases p with
      | key => exact absurd hp hkey
      | keyword => exact absurd hp hkeyword
      | page => exact hthird.fewer hp
  · intro hnone
    rw [hsecond.same (hnone .keyword)] at hthird
    exact hthird.same (hnone .page)

/-- Without braces besides those of its places a template is filled in one pass. -/
theorem fillTemplate_of_no_brace (h : .char '{' ∉ reading template.toList) :
    fillTemplate template (some keyword) page = fillOnce template keyword page := by
  obtain ⟨left, hfilled, -, hsame⟩ := fillTemplate_pieces template keyword page
  have hnone : ∀ p, ¬ Completes (filling keyword page) p (reading template.toList) := by
    rintro p ⟨before, between, after, hpieces, -⟩
    rw [hpieces] at h
    exact h (List.mem_append_right _ List.mem_cons_self)
  rw [hfilled, hsame hnone, fillOnce]

/-- Filling in is filling in one pass exactly if nothing that is filled in completes a place. -/
theorem fillTemplate_eq_fillOnce_iff :
    fillTemplate template (some keyword) page = fillOnce template keyword page
      ↔ ∀ p, ¬ Completes (filling keyword page) p (reading template.toList) := by
  obtain ⟨left, hfilled, hfewer, hsame⟩ := fillTemplate_pieces template keyword page
  constructor
  · intro heq p hp
    have hlt := hfewer ⟨p, hp⟩
    rw [hfilled, fillOnce] at heq
    have hcount := congrArg (List.count '{') (String.ofList_injective heq)
    rw [count_write (braceless_filling keyword page),
      count_write (braceless_filling keyword page)] at hcount
    omega
  · intro hnone
    rw [hfilled, hsame hnone, fillOnce]

end Template

/-- A keyword that is the name of a place completes it, where the template has braces around the
    place of the keyword. -/
theorem keyword_completes_page :
    fillTemplate "\x7b\x7bkey\x7d\x7d" (some "page") 1 = "1"
      ∧ fillOnce "\x7b\x7bkey\x7d\x7d" "page" 1 = "\x7bpage\x7d"
      ∧ fillTemplate "\x7b\x7bkey\x7d\x7d" (some "page") 1
        ≠ fillOnce "\x7b\x7bkey\x7d\x7d" "page" 1 := by
  decide

end Url

end Gleaner
