/-
  Gleaner/Proofs/Markup/Written.lean
  ==================================
  **Markup that says what it means.**  Nodes can be written down plainly: a text as it
  is, an element between its two tags, with its attributes in double quotes.  Of what is
  written in this way nothing is lost: reading it gives the same nodes again, whatever
  stands in what (`ofTokens_tokensOf` after `tokens_written`).

  Two kinds of text cannot be written so.  Text of blanks alone is kept as one blank, and
  neighbouring texts become one; forests with either are left out (`Plain`).
-/
import Gleaner.Markup.Node.Builder
import Gleaner.Markup.Token.Lexer
import Gleaner.Proofs.Text.Run

namespace Gleaner.Markup

open Text (takeWhile_run dropWhile_run cutAt?_sign)

/-! ### Nodes that can be written plainly -/

def isSmallLetter (c : Char) : Bool := 'a' ≤ c && c ≤ 'z'

def PlainWord (s : String) : Prop := s.toList ≠ [] ∧ ∀ c ∈ s.toList, isSmallLetter c = true

instance (s : String) : Decidable (PlainWord s) :=
  decidable_of_iff (s.toList ≠ [] ∧ s.toList.all isSmallLetter = true)
    (by rw [List.all_eq_true]; rfl)

structure PlainText (s : String) : Prop where
  noMarkup : ∀ c ∈ s.toList, c ≠ '<' ∧ c ≠ '&'
  solid : ∃ c ∈ s.toList, Text.isMarkupBlank c = false

/-- An attribute of an element whose value stands for itself. -/
structure PlainAttribute (element : String) (a : String × String) : Prop where
  word : PlainWord a.1
  value : ∀ c ∈ a.2.toList, c ≠ '"' ∧ c ≠ '&'
  oneLine : holdsWords element a.1 = true → Text.oneLine a.2 = a.2

structure PlainTag (name : String) (as : List (String × String)) : Prop where
  word : PlainWord name
  notVoid : isVoid name = false
  notRaw : isRawElement name = false
  runningText : containedKind? name = none
  attributes : ∀ a ∈ as, PlainAttribute name a
  distinct : (as.map (·.1)).Nodup

theorem plainTag_single {name : String} (hname : PlainWord name) (hcontent : isVoid name = false)
    (hraw : isRawElement name = false) (htext : containedKind? name = none) {a : String × String}
    (ha : PlainAttribute name a) : PlainTag name [a] :=
  ⟨hname, hcontent, hraw, htext, fun _ hb => List.mem_singleton.mp hb ▸ ha, by simp⟩

/-- Nodes that can be written plainly; no two texts are neighbours. -/
inductive Plain : List Node → Prop
  | nil : Plain []
  | text {s : String} {ns : List Node} (htext : PlainText s)
      (hnext : ∀ n ∈ ns.head?, n.isElement = true) (hrest : Plain ns) :
      Plain (.text .plain s :: ns)
  | element {name : String} {as : List (String × String)} {cs ns : List Node}
      (htag : PlainTag name as) (hinside : Plain cs) (hrest : Plain ns) :
      Plain (.element name as cs :: ns)

/-! ### Writing -/

def spelledAttributes (as : List (String × String)) : List Char :=
  as.flatMap fun (key, value) => ' ' :: (key.toList ++ '=' :: '"' :: (value.toList ++ ['"']))

def written : List Node → List Char
  | [] => []
  | .text _ s :: ns => s.toList ++ written ns
  | .element name as cs :: ns =>
      '<' :: (name.toList ++ (spelledAttributes as ++ '>' :: (written cs
        ++ '<' :: '/' :: (name.toList ++ '>' :: written ns))))

def tokensOf : List Node → List Token
  | [] => []
  | .text _ s :: ns => .text s.toList :: tokensOf ns
  | .element name as cs :: ns =>
      .startTag name as false :: (tokensOf cs ++ .endTag name :: tokensOf ns)

/-! ### Small letters -/

section
variable {c : Char}

theorem forall_small {p : Char → Prop}
    (hall : ∀ n < 128, isSmallLetter (Char.ofNat n) = true → p (Char.ofNat n))
    (h : isSmallLetter c = true) : p c := by
  refine Text.forall_ascii (p := fun c => isSmallLetter c = true → p c) hall ?_ h
  simp only [isSmallLetter, Bool.and_eq_true, decide_eq_true_eq] at h
  exact Nat.lt_of_le_of_lt h.2 (by decide)

theorem asciiLetter_of_small (h : isSmallLetter c = true) : Text.asciiLetter c = true :=
  forall_small (p := fun c => Text.asciiLetter c = true) (by decide) h

theorem isBlank_of_small (h : isSmallLetter c = true) : Text.isBlank c = false :=
  forall_small (p := fun c => Text.isBlank c = false) (by decide) h

theorem isQuote_of_small (h : isSmallLetter c = true) : isQuote c = false :=
  forall_small (p := fun c => isQuote c = false) (by decide) h

theorem isTagNameChar_of_small (h : isSmallLetter c = true) : isTagNameChar c = true :=
  forall_small (p := fun c => isTagNameChar c = true) (by decide) h

theorem isAttributeStart_of_small (h : isSmallLetter c = true) : isAttributeStart c = true :=
  forall_small (p := fun c => isAttributeStart c = true) (by decide) h

theorem isAttributeChar_of_small (h : isSmallLetter c = true) : isAttributeChar c = true :=
  forall_small (p := fun c => isAttributeChar c = true) (by decide) h

theorem isEndNameChar_of_small (h : isSmallLetter c = true) : isEndNameChar c = true :=
  forall_small (p := fun c => isEndNameChar c = true) (by decide) h

theorem ne_of_small (h : isSmallLetter c = true) (d : Char) (hd : isSmallLetter d = false) :
    c ≠ d := by
  rintro rfl
  rw [hd] at h
  cases h

theorem lowerChar_of_small (h : isSmallLetter c = true) :
    c.toNat ≠ 0x130 ∧ Text.lowerChar c = c :=
  forall_small (p := fun c => c.toNat ≠ 0x130 ∧ Text.lowerChar c = c) (by decide +kernel) h

end

theorem lowerChars_of_small {s : List Char} (h : ∀ c ∈ s, isSmallLetter c = true) :
    Text.lowerChars s = s := by
  induction s with
  | nil => rfl
  | cons c s ih =>
    obtain ⟨hdot, hlower⟩ := lowerChar_of_small (h c List.mem_cons_self)
    rw [Text.lowerChars, if_neg hdot, hlower, ih fun d hd => h d (List.mem_cons_of_mem c hd)]

/-! ### Tags -/

section
variable {name : String} {as : List (String × String)}

theorem skipGap_of_solid {c : Char} (hblank : Text.isBlank c = false) (hslash : c ≠ '/')
    (s : List Char) :
    skipGap (c :: s) = c :: s := by
  rw [skipGap.eq_3 c s (fun _ h _ => hslash h)]
  simp [hblank, hslash]

theorem skipGap_blank (s : List Char) : skipGap (' ' :: s) = skipGap s := by
  rw [skipGap.eq_3 ' ' s (fun _ h _ => by cases h)]
  rfl

theorem resolveValue_plain {v : List Char} (h : '&' ∉ v) : resolveValue v = .ok v := by
  induction v with
  | nil => rw [resolveValue]
  | cons c v ih =>
    have hc : c = '&' → False := fun e => h (e ▸ List.mem_cons_self)
    rw [resolveValue.eq_3 c v hc, ih fun hmem => h (List.mem_cons_of_mem c hmem)]
    rfl

/-- Plain values are kept as they are when their references are resolved. -/
theorem resolveAttributes_plain (h : ∀ a ∈ as, PlainAttribute name a) :
    resolveAttributes (as.map fun a => (a.1.toList, a.2.toList)) = .ok as := by
  induction as with
  | nil => rfl
  | cons a as ih =>
    have ha := h a List.mem_cons_self
    have hvalue : resolveValue a.2.toList = .ok a.2.toList :=
      resolveValue_plain fun hmem => (ha.value '&' hmem).2 rfl
    rw [List.map_cons, resolveAttributes, hvalue]
    simp only [ih fun b hb => h b (List.mem_cons_of_mem a hb)]
    simp [Except.map, lowerChars_of_small ha.word.2]

theorem spelledAttributes_cons (a : String × String) (as : List (String × String)) :
    spelledAttributes (a :: as)
      = ' ' :: (a.1.toList ++ '=' :: '"' :: (a.2.toList ++ '"' :: spelledAttributes as)) := by
  simp [spelledAttributes]

theorem valuePart_quoted {v : List Char} (h : '"' ∉ v) (s : List Char) :
    valuePart ('=' :: '"' :: (v ++ '"' :: s)) = some (v, s) := by
  have hcut := cutAt?_sign h s
  simp [valuePart, valueText, isQuote, hcut, show Text.isBlank '=' = false by decide,
    show Text.isBlank '"' = false by decide]

/-- Attributes that were written plainly are read back, as far as the bracket that closes
    the tag. -/
theorem attributesFrom_written (h : ∀ a ∈ as, PlainAttribute name a) (s : List Char) (fuel : Nat)
    (hfuel : as.length ≤ fuel) :
    attributesFrom fuel true (skipGap (spelledAttributes as ++ '>' :: s))
      = (as.map fun a => (a.1.toList, a.2.toList), '>' :: s) := by
  induction as generalizing fuel with
  | nil =>
    rw [spelledAttributes, List.flatMap_nil, List.nil_append,
      skipGap_of_solid (c := '>') (by decide) (by decide)]
    cases fuel <;> simp [attributesFrom, isAttributeStart]
  | cons a as ih =>
    have ha := h a List.mem_cons_self
    obtain ⟨fuel, rfl⟩ : ∃ f, fuel = f + 1 := ⟨fuel - 1, by simp at hfuel; omega⟩
    have hmore := ih (fun b hb => h b (List.mem_cons_of_mem a hb)) fuel (by simpa using hfuel)
    obtain ⟨c, key, hkey⟩ := List.exists_cons_of_ne_nil ha.word.1
    have hletters := ha.word.2
    rw [hkey] at hletters
    have hc := hletters c List.mem_cons_self
    have hrun : ∀ d ∈ key, isAttributeChar d = true := fun d hd =>
      isAttributeChar_of_small (hletters d (List.mem_cons_of_mem c hd))
    have hsign :
        ∀ d ∈ ('=' :: '"' :: (a.2.toList ++ '"' :: (spelledAttributes as ++ '>' :: s))).head?,
        isAttributeChar d = false := by simp [isAttributeChar]
    have hvalue := valuePart_quoted (fun hmem => (ha.value '"' hmem).1 rfl)
      (spelledAttributes as ++ '>' :: s)
    simp only [spelledAttributes_cons, hkey, List.cons_append, List.append_assoc, skipGap_blank,
      skipGap_of_solid (isBlank_of_small hc) (ne_of_small hc '/' (by decide)), attributesFrom,
      isAttributeStart_of_small hc, Bool.not_true, Bool.false_eq_true, if_false,
      takeWhile_run hrun hsign, dropWhile_run hrun hsign, hvalue, Bool.true_or, hmore,
      List.map_cons]

/-- What follows the name of a start tag is no part of the name. -/
theorem head?_attributes (as : List (String × String)) (s : List Char) :
    ∀ c ∈ (spelledAttributes as ++ '>' :: s).head?, isTagNameChar c = false := by
  cases as with
  | nil => simp [spelledAttributes, isTagNameChar]
  | cons a as => simp [spelledAttributes_cons, isTagNameChar]

theorem length_attributes (as : List (String × String)) :
    as.length ≤ (spelledAttributes as).length := by
  induction as with
  | nil => exact Nat.le_refl 0
  | cons a as ih =>
    simp only [spelledAttributes_cons, List.length_cons, List.length_append]
    omega

theorem skipGap_attributes {a : String × String} (ha : PlainAttribute name a)
    (as : List (String × String)) (s : List Char) :
    skipGap (spelledAttributes (a :: as) ++ s) = (spelledAttributes (a :: as) ++ s).tail := by
  obtain ⟨c, key, hkey⟩ := List.exists_cons_of_ne_nil ha.word.1
  have hc : isSmallLetter c = true := ha.word.2 c (hkey ▸ List.mem_cons_self)
  simp only [spelledAttributes_cons, hkey, List.cons_append, List.tail_cons, skipGap_blank,
    skipGap_of_solid (isBlank_of_small hc) (ne_of_small hc '/' (by decide))]

/-- A plain start tag is read back as one token. -/
theorem startTag_written (h : PlainTag name as) (s : List Char) :
    startTag (name.toList ++ (spelledAttributes as ++ '>' :: s))
      = .ok (.tokens [.startTag name as false] s) := by
  have hname : ∀ c ∈ name.toList, isTagNameChar c = true := fun c hc =>
    isTagNameChar_of_small (h.word.2 c hc)
  have hquote : (name.toList.getLast?.map isQuote).getD false = false := by
    rw [List.getLast?_eq_some_getLast h.word.1]
    exact isQuote_of_small (h.word.2 _ (List.getLast_mem h.word.1))
  have hread : attributesFrom (skipGap (spelledAttributes as ++ '>' :: s)).length
      (decide ((skipGap (spelledAttributes as ++ '>' :: s)).length
        < (spelledAttributes as ++ '>' :: s).length) || false)
      (skipGap (spelledAttributes as ++ '>' :: s))
        = (as.map fun a => (a.1.toList, a.2.toList), '>' :: s) := by
    cases as with
    | nil =>
      have hgap : skipGap ('>' :: s) = '>' :: s := skipGap_of_solid (by decide) (by decide) s
      simp [spelledAttributes, hgap, attributesFrom]
    | cons a as =>
      have hlong := length_attributes (a :: as)
      have hgap := skipGap_attributes (h.attributes a List.mem_cons_self) as ('>' :: s)
      have hapart : decide ((skipGap (spelledAttributes (a :: as) ++ '>' :: s)).length
          < (spelledAttributes (a :: as) ++ '>' :: s).length) = true := by
        simp [hgap]
      rw [hapart, Bool.or_false]
      refine attributesFrom_written h.attributes s _ ?_
      simp only [hgap, List.length_tail, List.length_append, List.length_cons] at hlong ⊢
      omega
  rw [startTag]
  simp only [takeWhile_run hname (head?_attributes as s),
    dropWhile_run hname (head?_attributes as s), hquote, hread,
    resolveAttributes_plain h.attributes, lowerChars_of_small h.word.2, Except.map,
    String.ofList_toList]

theorem endTag_written (h : PlainWord name) (s : List Char) :
    endTag (name.toList ++ '>' :: s) = .tokens [.endTag name] s := by
  have hbracket : '>' ∉ name.toList := fun hmem => ne_of_small (h.2 '>' hmem) '>' (by decide) rfl
  obtain ⟨c, more, hname⟩ := List.exists_cons_of_ne_nil h.1
  have hletters := h.2
  rw [hname] at hletters
  have hc := hletters c List.mem_cons_self
  have hrun : ∀ d ∈ more, isEndNameChar d = true := fun d hd =>
    isEndNameChar_of_small (hletters d (List.mem_cons_of_mem c hd))
  have hsign : ∀ d ∈ ('>' :: s).head?, isEndNameChar d = false := by simp [isEndNameChar]; decide
  have hplain : plainEndTag (c :: (more ++ '>' :: s)) = some (name.toList, s) := by
    simp [plainEndTag, isBlank_of_small hc, asciiLetter_of_small hc,
      takeWhile_run hrun hsign, dropWhile_run hrun hsign, hname,
      show Text.isBlank '>' = false by decide]
  rw [endTag, cutAt?_sign hbracket, hname, List.cons_append, hplain]
  simp [lowerChars_of_small h.2]

theorem construct?_startTag (h : PlainTag name as) (s : List Char) :
    construct? (name.toList ++ (spelledAttributes as ++ '>' :: s))
      = .ok (some (.tokens [.startTag name as false] s)) := by
  have htag := startTag_written h s
  obtain ⟨c, more, hname⟩ := List.exists_cons_of_ne_nil h.word.1
  have hc : isSmallLetter c = true := h.word.2 c (hname ▸ List.mem_cons_self)
  rw [hname, List.cons_append] at htag ⊢
  have hbang : c = '!' → False := ne_of_small hc '!' (by decide)
  rw [construct?.eq_6 c _ (ne_of_small hc '/' (by decide)) (ne_of_small hc '?' (by decide))
    (fun _ e _ => hbang e) (fun _ e _ => hbang e) hbang, if_pos (asciiLetter_of_small hc), htag]
  rfl

end

/-! ### Tokens -/

/-- The text is read as tokens with nothing left, from wherever reading comes to it. -/
def Reads (s : List Char) (ts : List Token) : Prop :=
  ∀ single fuel, s.length < fuel → pass single false fuel none s = .ok (ts, none, [])

section
variable {s rest : List Char} {ts more : List Token}

theorem Reads.nil : Reads [] [] := by
  intro single fuel hfuel
  obtain ⟨fuel, rfl⟩ : ∃ f, fuel = f + 1 := ⟨fuel - 1, by omega⟩
  rfl

theorem Reads.construct (hread : construct? s = .ok (some (.tokens ts rest)))
    (hraw : rawAfter ts = none) (hshort : rest.length ≤ s.length) (h : Reads rest more) :
    Reads ('<' :: s) (ts ++ more) := by
  intro single fuel hfuel
  obtain ⟨fuel, rfl⟩ : ∃ f, fuel = f + 1 := ⟨fuel - 1, by omega⟩
  have hrest := h single fuel (by simp at hfuel; omega)
  simp [pass, stepMarkup, hread, hraw, hrest, Except.map]

/-- A text ends at the next sign, and nothing in it is taken for one. -/
theorem Reads.text {t : List Char} (hne : t ≠ []) (hplain : ∀ c ∈ t, c ≠ '<' ∧ c ≠ '&')
    (hrest : ∀ c ∈ rest.head?, c = '<') (h : Reads rest more) :
    Reads (t ++ rest) (.text t :: more) := by
  intro single fuel hfuel
  obtain ⟨fuel, rfl⟩ : ∃ f, fuel = f + 1 := ⟨fuel - 1, by omega⟩
  obtain ⟨c, t, rfl⟩ := List.exists_cons_of_ne_nil hne
  obtain ⟨hc, hmark⟩ := hplain c List.mem_cons_self
  have hrun : ∀ d ∈ t, (decide (d ≠ '<') && decide (d ≠ '&')) = true := fun d hd => by
    simpa using hplain d (List.mem_cons_of_mem c hd)
  have hend : ∀ d ∈ rest.head?, (decide (d ≠ '<') && decide (d ≠ '&')) = false := fun d hd => by
    simp [hrest d hd]
  have hafter := h single fuel (by simp at hfuel; omega)
  rw [List.cons_append, pass]
  simp only [hc, hmark, if_false, takeWhile_run hrun hend, dropWhile_run hrun hend, rawAfter,
    hafter, Except.map, List.singleton_append]

theorem Reads.tokens (h : Reads s ts) (single : Nat → Option Char) :
    Markup.tokens single s = .ok ts := by
  have hpass := h single (s.length + 1) (by omega)
  simp [Markup.tokens, hpass, pass, textTokens]

end

/-- What is written after a text starts with a tag. -/
theorem head?_written {ns : List Node} {rest : List Char}
    (hnext : ∀ n ∈ ns.head?, n.isElement = true) (hrest : ∀ c ∈ rest.head?, c = '<') :
    ∀ c ∈ (written ns ++ rest).head?, c = '<' := by
  match ns with
  | [] => simpa [written] using hrest
  | .text kind s :: ns => exact absurd (hnext _ rfl) (by simp [Node.isElement])
  | .element name as cs :: ns => simp [written]

/-- Nodes are read as their tokens, whatever else is read after them. -/
theorem Plain.reads {ns : List Node} (h : Plain ns) {rest : List Char} {more : List Token}
    (hrest : ∀ c ∈ rest.head?, c = '<') (hmore : Reads rest more) :
    Reads (written ns ++ rest) (tokensOf ns ++ more) := by
  induction h generalizing rest more with
  | nil => simpa [written, tokensOf] using hmore
  | @text s ns htext hnext _ ih =>
    obtain ⟨d, hd, -⟩ := htext.solid
    have htail := ih hrest hmore
    simpa [written, tokensOf] using
      Reads.text (List.ne_nil_of_mem hd) htext.noMarkup (head?_written hnext hrest) htail
  | @element name as cs ns htag _ _ ihinside ihrest =>
    have hclose : Reads ('<' :: '/' :: (name.toList ++ '>' :: (written ns ++ rest)))
        ([.endTag name] ++ (tokensOf ns ++ more)) := by
      refine Reads.construct (s := '/' :: (name.toList ++ '>' :: (written ns ++ rest))) ?_ rfl ?_
        (ihrest hrest hmore)
      · rw [construct?, endTag_written htag.word]
      · simp only [List.length_cons, List.length_append]
        omega
    have hinside := ihinside (by simp) hclose
    have hopen := Reads.construct (construct?_startTag htag _)
      (by simp [rawAfter, htag.notRaw]) (by simp only [List.length_cons, List.length_append]; omega)
      hinside
    simpa [written, tokensOf] using hopen

theorem tokens_written {ns : List Node} (h : Plain ns) (single : Nat → Option Char) :
    tokens single (written ns) = .ok (tokensOf ns) := by
  have hread : Reads (written ns ++ []) (tokensOf ns ++ []) := h.reads (by simp) Reads.nil
  rw [List.append_nil, List.append_nil] at hread
  exact hread.tokens single

/-! ### Trees -/

namespace Growth

section
variable (g : Growth) (n : Node)

theorem add_settled : (g.add n).settled = g.settled := by unfold add; split <;> rfl

theorem add_pending : (g.add n).pending = g.pending := by unfold add; split <;> rfl

theorem add_textKind : (g.add n).textKind = g.textKind := by
  unfold add
  split
  · rfl
  · next e es hopen => simp [textKind, hopen, List.findSome?_cons]

theorem settle_settled (kind : Option TextKind) : (g.settle kind).settled = g.settled := by
  unfold settle
  split
  · rfl
  · rw [add_settled]

theorem settle_pending (kind : Option TextKind) : (g.settle kind).pending = none := by
  unfold settle
  split
  · assumption
  · rw [add_pending]

theorem settle_textKind (kind : Option TextKind) : (g.settle kind).textKind = g.textKind := by
  unfold settle
  split
  · rfl
  · rw [add_textKind]; rfl

theorem settle_of_none {g : Growth} (h : g.pending = none) (kind : Option TextKind) :
    g.settle kind = g := by
  rw [settle, h]

end

def addAll (g : Growth) (ns : List Node) : Growth := ns.foldl add g

section
variable (g : Growth) (ns : List Node)

theorem addAll_cons (n : Node) : g.addAll (n :: ns) = (g.add n).addAll ns := rfl

/-- Nodes are added to the innermost open element, the last one first. -/
theorem addAll_open {g : Growth} {e : OpenElement} {es : List OpenElement}
    (h : g.openElements = e :: es) : g.addAll ns
      = { g with openElements := { e with content := ns.reverse ++ e.content } :: es } := by
  induction ns generalizing g e with
  | nil => simp [addAll, ← h]
  | cons n ns ih =>
    have hadd :
        g.add n = { g with openElements := { e with content := n :: e.content } :: es } := by
      rw [add, h]
    rw [addAll_cons, ih (e := { e with content := n :: e.content }) (by rw [hadd]), hadd]
    simp

theorem addAll_document {g : Growth} (h : g.openElements = []) :
    g.addAll ns = { g with document := ns.reverse ++ g.document } := by
  induction ns generalizing g with
  | nil => simp [addAll]
  | cons n ns ih =>
    have hadd : g.add n = { g with document := n :: g.document } := by rw [add, h]
    rw [addAll_cons, ih (by rw [hadd, h]), hadd]
    simp

end

/-- Running text is expected, and every end tag counts. -/
structure Calm (g : Growth) : Prop where
  settled : g.settled = []
  textKind : g.textKind = .plain

variable {g : Growth}

theorem Calm.settle (h : g.Calm) (kind : Option TextKind) : (g.settle kind).Calm :=
  ⟨by rw [settle_settled, h.settled], by rw [settle_textKind, h.textKind]⟩

theorem Calm.add (h : g.Calm) (n : Node) : (g.add n).Calm :=
  ⟨by rw [add_settled, h.settled], by rw [add_textKind, h.textKind]⟩

/-- Collected text becomes one node, as it stands. -/
theorem settle_text (h : g.Calm) (hpending : g.pending = none) {s : String} (htext : PlainText s) :
    (g.take (.text s.toList)).settle none = g.add (.text .plain s) := by
  obtain ⟨c, hc, hsolid⟩ := htext.solid
  have hall : (s.toList.all Text.isMarkupBlank) = false := by
    rw [List.all_eq_false]
    exact ⟨c, hc, by simp [hsolid]⟩
  have hkind : ({ g with pending := none } : Growth).textKind = .plain := h.textKind
  have hg : { g with pending := none } = g := by rw [← hpending]
  have hsame : g.collect s.toList = { g with pending := some s.toList.reverse } := by
    simp [collect, hpending, List.reverseAux_eq]
  rw [Growth.take, hsame, Growth.settle]
  simp only [List.reverse_reverse, Option.getD_none, keptText, hall, Bool.false_and,
    Bool.false_eq_true, if_false, String.ofList_toList, hg]
  congr 2

end Growth

theorem putAttribute_new {key : String} (value : String) {as : List (String × String)}
    (h : key ∉ as.map (·.1)) : putAttribute key value as = as ++ [(key, value)] := by
  induction as with
  | nil => rfl
  | cons a as ih =>
    rw [List.map_cons, List.mem_cons, not_or] at h
    rw [putAttribute, if_neg fun e => h.1 e.symm, ih h.2, List.cons_append]

theorem foldl_putAttribute (before as : List (String × String))
    (h : ((before ++ as).map (·.1)).Nodup) :
    as.foldl (fun all (key, value) => putAttribute key value all) before = before ++ as := by
  induction as generalizing before with
  | nil => simp
  | cons a as ih =>
    have hnew : a.1 ∉ before.map (·.1) := by
      simp only [List.map_append, List.map_cons, List.nodup_append, List.mem_cons] at h
      exact fun hmem => h.2.2 a.1 hmem a.1 (.inl rfl) rfl
    have hmore : ((before ++ [a] ++ as).map (·.1)).Nodup := by simpa using h
    rw [List.foldl_cons, show (match a with | (key, value) => putAttribute key value before)
      = before ++ [a]
      from putAttribute_new a.2 hnew, ih _ hmore, List.append_assoc, List.singleton_append]

/-- The attributes of a plain tag are not changed by being settled. -/
theorem settledAttributes_plain {name : String} {as : List (String × String)}
    (h : PlainTag name as) :
    settledAttributes name as = as := by
  have hput := foldl_putAttribute [] as (by simpa using h.distinct)
  have hsame : ∀ a ∈ as,
      (fun (a : String × String) => (a.1, if holdsWords name a.1 then Text.oneLine a.2 else a.2)) a
        = id a := by
    intro a ha
    have hline := (h.attributes a ha).oneLine
    by_cases hwords : holdsWords name a.1 = true
    · simp [hwords, hline hwords]
    · simp [hwords]
  rw [List.nil_append] at hput
  rw [settledAttributes, hput, List.map_congr_left hsame, List.map_id]

namespace Growth

def opened (g : Growth) (name : String) (as : List (String × String)) : Growth :=
  { g with openElements := ⟨name, as, []⟩ :: g.openElements }

theorem take_startTag {g : Growth} {name : String} {as : List (String × String)}
    (h : PlainTag name as) :
    g.take (.startTag name as false) = (g.settle none).opened name as := by
  simp [take, openElement, opened, h.notVoid, settledAttributes_plain h]

theorem Calm.opened {g : Growth} (hcalm : g.Calm) {name : String} {as : List (String × String)}
    (h : PlainTag name as) : (g.opened name as).Calm := by
  refine ⟨hcalm.settled, ?_⟩
  rw [← hcalm.textKind]
  simp [Growth.textKind, Growth.opened, h.runningText]

/-- The end tag of the innermost open element makes a node of it. -/
theorem take_endTag {g : Growth} {e : OpenElement} {es : List OpenElement} (h : g.settled = [])
    (hopen : (g.settle none).openElements = e :: es) :
    g.take (.endTag e.name)
      = { g.settle none with openElements := es }.add
        (.element e.name e.attributes e.content.reverse) := by
  have hfirst : (e :: es).findIdx? (·.name == e.name) = some 0 := by simp [List.findIdx?_cons]
  simp [take, h, close, hopen, closeMany, closeInnermost, hfirst]

/-- Opened on what is settled, an element takes its content and is added as it closes. -/
theorem take_element {g : Growth} (hcalm : g.Calm) {name : String} {as : List (String × String)}
    {cs : List Node} (htag : PlainTag name as)
    (hinside : ∀ {g : Growth}, g.Calm → g.pending = none →
      ((tokensOf cs).foldl take g).settle none = (g.settle none).addAll cs) :
    ((tokensOf cs).foldl take (g.take (.startTag name as false))).take (.endTag name)
      = (g.settle none).add (.element name as cs) := by
  have hsettled := hcalm.settle none
  have hpending := settle_pending g none
  rw [take_startTag htag]
  generalize g.settle none = base at hsettled hpending ⊢
  have hopened := hsettled.opened htag
  have hnone : (base.opened name as).pending = none := hpending
  have hfilled := hinside hopened hnone
  rw [settle_of_none hnone, addAll_open cs (e := ⟨name, as, []⟩) rfl, List.append_nil] at hfilled
  have hcounts : ((tokensOf cs).foldl take (base.opened name as)).settled = [] := by
    rw [← settle_settled _ none, hfilled]
    exact hsettled.settled
  have hopen : (((tokensOf cs).foldl take (base.opened name as)).settle none).openElements
      = ⟨name, as, cs.reverse⟩ :: base.openElements := by rw [hfilled]
  have hend := take_endTag hcounts hopen
  rw [hfilled, List.reverse_reverse] at hend
  exact hend

/-- Reading plain nodes adds these nodes, once the text at their end is settled. -/
theorem takes_plain {ns : List Node} (h : Plain ns) {g : Growth} (hcalm : g.Calm)
    (hpending : g.pending = none ∨ ∀ n ∈ ns.head?, n.isElement = true) :
    ((tokensOf ns).foldl take g).settle none = (g.settle none).addAll ns := by
  induction h generalizing g with
  | nil => simp [tokensOf, addAll]
  | @text s ns htext hnext _ ih =>
    have hnone : g.pending = none := by
      rcases hpending with hnone | helement
      · exact hnone
      · exact absurd (helement _ rfl) (by simp [Node.isElement])
    have hcollect : (g.take (.text s.toList)).Calm := ⟨hcalm.settled, hcalm.textKind⟩
    rw [tokensOf, List.foldl_cons, ih hcollect (.inr hnext), settle_text hcalm hnone htext,
      addAll_cons, settle_of_none hnone]
  | @element name as cs ns htag _ _ ihinside ihrest =>
    have hadded : ((g.settle none).add (.element name as cs)).pending = none := by
      rw [add_pending, settle_pending]
    rw [tokensOf, List.foldl_cons, List.foldl_append, List.foldl_cons,
      take_element hcalm htag fun hg hnone => ihinside hg (.inl hnone),
      ihrest ((hcalm.settle none).add _) (.inl hadded), settle_of_none hadded, addAll_cons]

end Growth

/-- The tokens of plain nodes make a document of these nodes. -/
theorem ofTokens_tokensOf {ns : List Node} (h : Plain ns) :
    Node.ofTokens (tokensOf ns) = .element documentName [] ns := by
  have htakes := Growth.takes_plain h (g := Growth.empty) ⟨rfl, rfl⟩ (.inl rfl)
  have hempty : Growth.empty.settle none = Growth.empty := rfl
  rw [hempty, Growth.addAll_document ns rfl] at htakes
  rw [Node.ofTokens, Growth.finish, htakes]
  simp [Growth.empty, Growth.closeMany]

end Gleaner.Markup
