/-
  Gleaner/Proofs/Json/Written.lean
  ================================
  **Values as text.**  `Writes` says which texts write a value: words, whole numbers and
  texts have one way to be written, a number with a point has many, and between the parts
  of arrays and objects blanks may stand.  The reader takes a value that is written in any
  of these ways for what it is (`Writes.reads`).
-/
import Gleaner.Proofs.Json.Text
import Gleaner.Proofs.Text.Decimal
import Gleaner.Proofs.Decimal.Pointed

namespace Gleaner.Json

open Binary64 (Tail)
open Text (Digits ShortInt Whole asciiDigit takeWhile_run dropWhile_run)

/-! ### Ways to write -/

def Blank (b : List Char) : Prop := ∀ c ∈ b, isSpace c = true

theorem blank_nil : Blank [] := by simp [Blank]

/-- What a text can write: a value, the items of an array as far as its closing bracket,
    or the members of an object as far as its closing brace. -/
inductive Part where
  | value (v : Json)
  | items (vs : List Json)
  | members (ms : Members)

def sign (negative : Bool) : List Char := if negative then ['-'] else []

/-- The texts of a number with a point: words for what is no number or not finite, else
    digits with a fraction or an exponent. -/
inductive Pointed : Binary64 → List Char → Prop
  | word {w : String} {x : Binary64} (hword : (w, Json.real x) ∈ literals) : Pointed x w.toList
  | number (negative : Bool) {w t fraction e : List Char} {low : Bool} (hw : Whole w)
      (ht : Tail t fraction low e) :
      Pointed (Binary64.ofParts negative w fraction low e) (sign negative ++ (w ++ t))

inductive Simple : Json → List Char → Prop
  | null : Simple .null "null".toList
  | bool (b : Bool) : Simple (.bool b) (atom (.bool b))
  | int {n : Int} (hshort : ShortInt n) : Simple (.int n) (atom (.int n))
  | real {x : Binary64} {cs : List Char} (h : Pointed x cs) : Simple (.real x) cs
  | str (s : String) : Simple (.str s) (quote s)

/-- The part is written by the text.  The members of an object have different names. -/
inductive Writes : Part → List Char → Prop
  | simple {v : Json} {cs : List Char} (h : Simple v cs) : Writes (.value v) cs
  | emptyArr {b : List Char} (hb : Blank b) : Writes (.value (.arr [])) ('[' :: (b ++ [']']))
  | arr {b cs : List Char} {vs : List Json} (hb : Blank b) (hitems : Writes (.items vs) cs) :
      Writes (.value (.arr vs)) ('[' :: (b ++ cs))
  | emptyObj {b : List Char} (hb : Blank b) : Writes (.value (.obj [])) ('{' :: (b ++ ['}']))
  | obj {b cs : List Char} {ms : Members} (hb : Blank b) (hnames : (ms.map (·.1)).Nodup)
      (hmembers : Writes (.members ms) cs) : Writes (.value (.obj ms)) ('{' :: (b ++ cs))
  | lastItem {c b : List Char} {v : Json} (hvalue : Writes (.value v) c) (hb : Blank b) :
      Writes (.items [v]) (c ++ (b ++ [']']))
  | item {c b b' cs : List Char} {v : Json} {vs : List Json} (hvalue : Writes (.value v) c)
      (hb : Blank b) (hb' : Blank b') (hmore : Writes (.items vs) cs) :
      Writes (.items (v :: vs)) (c ++ (b ++ ',' :: (b' ++ cs)))
  | lastMember {b₁ b₂ b₃ c : List Char} {k : String} {v : Json} (hb₁ : Blank b₁) (hb₂ : Blank b₂)
      (hvalue : Writes (.value v) c) (hb₃ : Blank b₃) :
      Writes (.members [(k, v)]) (quote k ++ (b₁ ++ ':' :: (b₂ ++ (c ++ (b₃ ++ ['}'])))))
  | member {b₁ b₂ b₃ b₄ c cs : List Char} {k : String} {v : Json} {ms : Members} (hb₁ : Blank b₁)
      (hb₂ : Blank b₂) (hvalue : Writes (.value v) c) (hb₃ : Blank b₃) (hb₄ : Blank b₄)
      (hmore : Writes (.members ms) cs) :
      Writes (.members ((k, v) :: ms))
        (quote k ++ (b₁ ++ ':' :: (b₂ ++ (c ++ (b₃ ++ ',' :: (b₄ ++ cs))))))

/-! ### Fronts and ends -/

/-- A value starts with a character that neither is a blank nor closes anything, nor marks
    the order of bytes. -/
structure Starts (c : Char) : Prop where
  solid : isSpace c = false
  noBracket : c ≠ ']'
  noBrace : c ≠ '}'
  noMark : c ≠ '\uFEFF'

instance (c : Char) : Decidable (Starts c) :=
  decidable_of_iff (isSpace c = false ∧ c ≠ ']' ∧ c ≠ '}' ∧ c ≠ '\uFEFF')
    ⟨fun ⟨h₁, h₂, h₃, h₄⟩ => ⟨h₁, h₂, h₃, h₄⟩, fun h => ⟨h.solid, h.noBracket, h.noBrace, h.noMark⟩⟩

def StartsValue (cs : List Char) : Prop := ∃ c s, cs = c :: s ∧ Starts c

theorem StartsValue.append {cs : List Char} (h : StartsValue cs) (rest : List Char) :
    StartsValue (cs ++ rest) := by
  obtain ⟨c, s, rfl, hc⟩ := h
  exact ⟨c, s ++ rest, rfl, hc⟩

def Stops (rest : List Char) : Prop :=
  ∀ c ∈ rest.head?, (isSpace c || c == ',' || c == ']' || c == '}') = true

theorem atom_int (n : Int) : atom (.int n) = sign (decide (n < 0)) ++ Nat.toDigits 10 n.natAbs := by
  cases n with
  | ofNat n => simp [atom, Int.repr, sign]
  | negSucc n => simp [atom, Int.repr, sign, Int.negSucc_lt_zero]

def StartsNumber (c : Char) : Prop := asciiDigit c = true ∨ c = '-' ∨ c = 'N' ∨ c = 'I'

theorem StartsNumber.starts {c : Char} (h : StartsNumber c) :
    Starts c ∧ c ≠ '\x22' ∧ c ≠ '[' ∧ c ≠ '{' := by
  rcases h with h | rfl | rfl | rfl
  · exact Text.forall_digit (p := fun c => Starts c ∧ c ≠ '\x22' ∧ c ≠ '[' ∧ c ≠ '{') (by decide) h
  · decide
  · decide
  · decide

theorem signed_front (negative : Bool) {w : List Char} (hw : Whole w) (t : List Char) :
    ∃ c s, sign negative ++ (w ++ t) = c :: s ∧ StartsNumber c := by
  cases negative with
  | false =>
    obtain ⟨c, s, rfl⟩ := List.exists_cons_of_ne_nil hw.nonempty
    exact ⟨c, s ++ t, rfl, .inl (hw.digits c List.mem_cons_self)⟩
  | true => exact ⟨'-', w ++ t, rfl, .inr (.inl rfl)⟩

theorem int_front (n : Int) : ∃ c s, atom (.int n) = c :: s ∧ StartsNumber c := by
  obtain ⟨c, s, hfront, hc⟩ := signed_front (decide (n < 0)) (Text.whole_toDigits n.natAbs) []
  exact ⟨c, s, by rw [atom_int, ← hfront, List.append_nil], hc⟩

theorem real_word {w : String} {x : Binary64} (h : (w, Json.real x) ∈ literals) :
    (w = "NaN" ∧ x = .nan) ∨ (w = "Infinity" ∧ x = .infinite false)
      ∨ (w = "-Infinity" ∧ x = .infinite true) := by
  simpa [literals] using h

theorem Pointed.front {x : Binary64} {cs : List Char} (h : Pointed x cs) :
    ∃ c s, cs = c :: s ∧ StartsNumber c := by
  cases h with
  | word hword =>
    rcases real_word hword with ⟨rfl, -⟩ | ⟨rfl, -⟩ | ⟨rfl, -⟩
    · exact ⟨'N', _, rfl, .inr (.inr (.inl rfl))⟩
    · exact ⟨'I', _, rfl, .inr (.inr (.inr rfl))⟩
    · exact ⟨'-', _, rfl, .inr (.inl rfl)⟩
  | number negative hw ht => exact signed_front negative hw _

theorem Simple.front {v : Json} {cs : List Char} (h : Simple v cs) : StartsValue cs := by
  cases h with
  | null => exact ⟨'n', _, rfl, by decide⟩
  | bool b => cases b <;> exact ⟨_, _, rfl, by decide⟩
  | @int n _ =>
    obtain ⟨c, s, hfront, hc⟩ := int_front n
    exact ⟨c, s, hfront, hc.starts.1⟩
  | real h =>
    obtain ⟨c, s, hfront, hc⟩ := h.front
    exact ⟨c, s, hfront, hc.starts.1⟩
  | str s => exact ⟨'\x22', _, rfl, by decide⟩

/-- Whatever part is written, its text starts as a value does. -/
theorem Writes.front {p : Part} {cs : List Char} (h : Writes p cs) : StartsValue cs := by
  induction h with
  | simple h => exact h.front
  | emptyArr | arr | emptyObj | obj => exact ⟨_, _, rfl, by decide⟩
  | lastItem _ _ ih | item _ _ _ _ ih _ =>
    obtain ⟨c, s, rfl, hstart⟩ := ih
    exact ⟨c, _, rfl, hstart⟩
  | lastMember | member => exact ⟨'\x22', _, rfl, by decide⟩

theorem skipSpace_blank {b s : List Char} (hb : Blank b) {c : Char} (hc : isSpace c = false) :
    skipSpace (b ++ c :: s) = c :: s :=
  dropWhile_run hb (by simpa using hc)

/-- The blanks before a part are skipped, and no more. -/
theorem StartsValue.skipSpace_eq {b cs : List Char} (h : StartsValue cs) (hb : Blank b)
    (rest : List Char) :
    skipSpace (b ++ (cs ++ rest)) = cs ++ rest := by
  obtain ⟨c, s, rfl, hstart⟩ := h
  exact skipSpace_blank hb hstart.solid

theorem stops_blank {b rest : List Char} (hb : Blank b) (hrest : Stops rest) :
    Stops (b ++ rest) := by
  cases b with
  | nil => exact hrest
  | cons c b =>
    intro d hd
    obtain rfl : c = d := by simpa using hd
    simp [hb c List.mem_cons_self]

/-! ### Simple values -/

section
variable {rest : List Char}

/-- What follows a number is no part of it. -/
theorem Stops.outside (hrest : Stops rest) {c : Char} (hc : c ∈ rest.head?) :
    asciiDigit c = false ∧ c ≠ '.' ∧ c ≠ 'e' ∧ c ≠ 'E' := by
  have hcases : (c = ' ' ∨ c = '\t' ∨ c = '\n' ∨ c = '\r') ∨ c = ',' ∨ c = ']' ∨ c = '}' := by
    simpa [isSpace, or_assoc] using hrest c hc
  rcases hcases with (rfl | rfl | rfl | rfl) | rfl | rfl | rfl <;> decide

theorem Stops.noDigit (hrest : Stops rest) : ∀ c ∈ rest.head?, asciiDigit c = false :=
  fun _ hc => (hrest.outside hc).1

/-- The whole part is read as it is written, as far as its digits go. -/
theorem wholeDigits?_whole {w : List Char} (hw : Whole w) (rest : List Char)
    (hrest : ∀ c ∈ rest.head?, asciiDigit c = false) :
    wholeDigits? (w ++ rest) = some (w, rest) := by
  rcases hw.front with rfl | ⟨c, s, rfl, hne⟩
  · rfl
  · have hrun := fun d hd => hw.digits d (List.mem_cons_of_mem c hd)
    rw [List.cons_append, wholeDigits?.eq_2 c _ hne, if_pos (hw.digits c List.mem_cons_self),
      takeWhile_run hrun hrest, dropWhile_run hrun hrest]

theorem fractionDigits_digits {ds : List Char} (hds : Digits ds) (rest : List Char)
    (hrest : ∀ c ∈ rest.head?, asciiDigit c = false) :
    fractionDigits ('.' :: (ds ++ rest)) = (ds, rest) := by
  obtain ⟨c, s, rfl⟩ := List.exists_cons_of_ne_nil hds.nonempty
  have hrun := fun d hd => hds.digits d (List.mem_cons_of_mem c hd)
  rw [List.cons_append, fractionDigits, if_pos (hds.digits c List.mem_cons_self),
    takeWhile_run hrun hrest, dropWhile_run hrun hrest]

theorem fractionDigits_none (rest : List Char) (hrest : ∀ c ∈ rest.head?, c ≠ '.') :
    fractionDigits rest = ([], rest) := by
  unfold fractionDigits
  split
  · exact absurd rfl (hrest '.' rfl)
  · rfl

theorem exponentDigits?_digits (low : Bool) {es : List Char} (hes : Digits es)
    (hrest : ∀ c ∈ rest.head?, asciiDigit c = false) :
    exponentDigits? ('e' :: (if low then '-' else '+') :: (es ++ rest)) = some (low, es, rest) := by
  cases low <;> simp [exponentDigits?, takeWhile_run hes.digits hrest,
    dropWhile_run hes.digits hrest, hes.nonempty]

theorem exponentDigits?_none (hrest : Stops rest) : exponentDigits? rest = none := by
  cases rest with
  | nil => rfl
  | cons c s =>
    obtain ⟨-, -, he, hE⟩ := hrest.outside (c := c) rfl
    simp [exponentDigits?, he, hE]

theorem readMagnitude_toDigits (negative : Bool) (start : List Char) {n : Nat}
    (hshort : (Nat.toDigits 10 n).length ≤ Text.maxDigits) (hrest : Stops rest) :
    readMagnitude negative start (Nat.toDigits 10 n ++ rest)
      = .ok (.int (Binary64.signed negative n), rest) := by
  have hwhole := wholeDigits?_whole (Text.whole_toDigits n) rest hrest.noDigit
  have hpoint := fractionDigits_none rest fun c hc => (hrest.outside hc).2.1
  have hfew : ¬ Text.maxDigits < (Nat.toDigits 10 n).length := Nat.not_lt.mpr hshort
  simp [readMagnitude, hwhole, hpoint, exponentDigits?_none hrest, hfew, Text.decimalValue_toDigits]

/-- A number with a point is read back with the digits that its text has. -/
theorem readMagnitude_tail (negative : Bool) (start : List Char) {w t fraction e : List Char}
    {low : Bool} (hw : Whole w) (ht : Tail t fraction low e) (hrest : Stops rest) :
    readMagnitude negative start (w ++ (t ++ rest))
      = .ok (.real (Binary64.ofParts negative w fraction low e), rest) := by
  cases ht with
  | fraction hds =>
    have hwhole := wholeDigits?_whole hw ('.' :: (fraction ++ rest)) (by simp; rfl)
    have hpoint := fractionDigits_digits hds rest hrest.noDigit
    simp [readMagnitude, hwhole, hpoint, exponentDigits?_none hrest, hds.nonempty]
  | exponent _ hes =>
    have hwhole :=
      wholeDigits?_whole hw ('e' :: (if low then '-' else '+') :: (e ++ rest)) (by simp; rfl)
    have hpoint := fractionDigits_none ('e' :: (if low then '-' else '+') :: (e ++ rest)) (by simp)
    have hexponent := exponentDigits?_digits low hes hrest.noDigit
    simp [readMagnitude, hwhole, hpoint, hexponent]
  | both hds _ hes =>
    have hwhole := wholeDigits?_whole hw
      ('.' :: (fraction ++ 'e' :: (if low then '-' else '+') :: (e ++ rest))) (by simp; rfl)
    have hpoint :=
      fractionDigits_digits hds ('e' :: (if low then '-' else '+') :: (e ++ rest)) (by simp; rfl)
    have hexponent := exponentDigits?_digits low hes hrest.noDigit
    simp [readMagnitude, hwhole, hpoint, hexponent]

theorem readLiteral?_digit {c : Char} (h : asciiDigit c = true) (s : List Char) :
    readLiteral? (c :: s) literals = none ∧ readLiteral? ('-' :: c :: s) literals = none := by
  have hne (d : Char) (hd : asciiDigit d = false) : d ≠ c := by
    rintro rfl
    rw [hd] at h
    cases h
  simp [readLiteral?, literals, Text.dropFront?, hne 'n' (by decide), hne 't' (by decide),
    hne 'f' (by decide), hne 'N' (by decide), hne 'I' (by decide), hne '-' (by decide)]

/-- A text that starts as a number does is read as a number. -/
theorem readAtom_signed (negative : Bool) {w : List Char} (hw : Whole w) (s : List Char) :
    readAtom (sign negative ++ (w ++ s))
      = readMagnitude negative (sign negative ++ (w ++ s)) (w ++ s) := by
  obtain ⟨c, more, rfl⟩ := List.exists_cons_of_ne_nil hw.nonempty
  have hdigit := hw.digits c List.mem_cons_self
  have hnone := readLiteral?_digit hdigit (more ++ s)
  cases negative with
  | false =>
    have hdash : c = '-' → False := by
      rintro rfl
      exact absurd hdigit (by decide)
    simp only [sign, Bool.false_eq_true, if_false, List.nil_append, List.cons_append]
    rw [readAtom.eq_2 _ (fun _ e => hdash (List.cons.inj e).1), hnone.1]
  | true =>
    simp only [sign, if_true, List.cons_append, List.nil_append]
    rw [readAtom.eq_1, hnone.2]

/-- A short whole number is read back as itself. -/
theorem readAtom_int {n : Int} (hshort : ShortInt n) (hrest : Stops rest) :
    readAtom (atom (.int n) ++ rest) = .ok (.int n, rest) := by
  have hsigned : Binary64.signed (decide (n < 0)) n.natAbs = n := by
    unfold Binary64.signed
    split
    · next h => rw [decide_eq_true_eq] at h; omega
    · next h => rw [decide_eq_true_eq] at h; omega
  rw [atom_int, List.append_assoc, readAtom_signed _ (Text.whole_toDigits n.natAbs),
    readMagnitude_toDigits _ _ hshort hrest, hsigned]

theorem readAtom_pointed {x : Binary64} {cs : List Char} (h : Pointed x cs) (hrest : Stops rest) :
    readAtom (cs ++ rest) = .ok (.real x, rest) := by
  cases h with
  | word hword =>
    rcases real_word hword with ⟨rfl, rfl⟩ | ⟨rfl, rfl⟩ | ⟨rfl, rfl⟩ <;> rfl
  | number negative hw ht =>
    rw [List.append_assoc, List.append_assoc, readAtom_signed negative hw,
      readMagnitude_tail _ _ hw ht hrest]

theorem quote_append (s : String) (rest : List Char) :
    quote s ++ rest = '\x22' :: (s.toList.flatMap escapeChar ++ '\x22' :: rest) := by
  simp [quote]

theorem readValue_number {cs : List Char} (h : ∃ c s, cs = c :: s ∧ StartsNumber c) (fuel : Nat) :
    readValue (fuel + 1) (cs ++ rest) = readAtom (cs ++ rest) := by
  obtain ⟨c, s, rfl, hc⟩ := h
  obtain ⟨-, hquote, hlist, hobject⟩ := hc.starts
  exact readValue.eq_5 _ fuel (fun _ e => hquote (List.cons.inj e).1)
    (fun _ e => hlist (List.cons.inj e).1) (fun _ e => hobject (List.cons.inj e).1)

theorem readValue_simple {v : Json} {cs : List Char} (h : Simple v cs) (hrest : Stops rest)
    (fuel : Nat) :
    readValue (fuel + 1) (cs ++ rest) = .ok (v, rest) := by
  cases h with
  | null => rfl
  | bool b => cases b <;> rfl
  | @int n hshort => rw [readValue_number (int_front n), readAtom_int hshort hrest]
  | real h => rw [readValue_number h.front, readAtom_pointed h hrest]
  | str s =>
    rw [quote_append, readValue.eq_2, readText_quote]
    rfl

end

/-! ### Reading -/

theorem put_new {name : String} (v : Json) {ms : Members} (h : name ∉ ms.map (·.1)) :
    put name v ms = ms ++ [(name, v)] := by
  induction ms with
  | nil => rfl
  | cons m ms ih =>
    rw [List.map_cons, List.mem_cons, not_or] at h
    rw [put, if_neg fun e => h.1 e.symm, ih h.2, List.cons_append]

theorem name_new {name : String} {v : Json} {before ms : Members}
    (h : ((before ++ (name, v) :: ms).map (·.1)).Nodup) : name ∉ before.map (·.1) := by
  rw [List.map_append, List.map_cons, List.nodup_append] at h
  exact fun hmem => h.2.2 name hmem name List.mem_cons_self rfl

/-- The reader takes the part from the front of a text, with as much fuel as the part is
    long, twice over. -/
def Reads : Part → List Char → Prop
  | .value v, cs => ∀ fuel rest, 2 * cs.length ≤ fuel → Stops rest →
      readValue fuel (cs ++ rest) = .ok (v, rest)
  | .items vs, cs => ∀ fuel acc rest, 2 * cs.length ≤ fuel →
      readItems fuel acc (cs ++ rest) = .ok (.arr (acc.reverse ++ vs), rest)
  | .members ms, cs => ∀ fuel acc rest, 2 * cs.length ≤ fuel → ((acc ++ ms).map (·.1)).Nodup →
      readMembers fuel acc (cs ++ rest) = .ok (.obj (acc ++ ms), rest)

section
variable {rest : List Char}

theorem stops_sign {c : Char} (hc : c = ',' ∨ c = ']' ∨ c = '}') (s : List Char) :
    Stops (c :: s) := by
  intro d hd
  obtain rfl : c = d := by simpa using hd
  rcases hc with rfl | rfl | rfl <;> rfl

/-- After an item comes the sign that follows it. -/
theorem readItems_value {c b : List Char} {v : Json} {d : Char} (hread : Reads (.value v) c)
    (hb : Blank b) (hd : d = ',' ∨ d = ']') {fuel : Nat} (hfuel : 2 * c.length ≤ fuel)
    (acc : List Json) (s : List Char) :
    readItems (fuel + 1) acc (c ++ (b ++ d :: s))
      = if d = ',' then readItems fuel (v :: acc) (skipSpace s)
      else .ok (.arr (v :: acc).reverse, s) := by
  have hstops : Stops (b ++ d :: s) :=
    stops_blank hb (stops_sign (by rcases hd with rfl | rfl <;> simp) s)
  have hskip : skipSpace (b ++ d :: s) = d :: s :=
    skipSpace_blank hb (by rcases hd with rfl | rfl <;> rfl)
  rw [readItems, hread fuel _ hfuel hstops]
  simp only [hskip]
  rcases hd with rfl | rfl <;> simp

/-- After a name and its value comes the sign that follows them. -/
theorem readMembers_member {cs b₁ b₂ c b₃ : List Char} {k : String} {v : Json} {d : Char}
    (hname : EndsText [] cs k) (hb₁ : Blank b₁) (hb₂ : Blank b₂) (hfront : StartsValue c)
    (hread : Reads (.value v) c) (hb₃ : Blank b₃) (hd : d = ',' ∨ d = '}') {fuel : Nat}
    (hfuel : 2 * c.length ≤ fuel) (acc : Members) (s : List Char) :
    readMembers (fuel + 1) acc ('\x22' :: (cs ++ (b₁ ++ ':' :: (b₂ ++ (c ++ (b₃ ++ d :: s))))))
      = if d = ',' then readMembers fuel (put k v acc) (skipSpace s)
      else .ok (.obj (put k v acc), s) := by
  have hstops : Stops (b₃ ++ d :: s) :=
    stops_blank hb₃ (stops_sign (by rcases hd with rfl | rfl <;> simp) s)
  have hskip : skipSpace (b₃ ++ d :: s) = d :: s :=
    skipSpace_blank hb₃ (by rcases hd with rfl | rfl <;> rfl)
  have hcolon : skipSpace (b₁ ++ ':' :: (b₂ ++ (c ++ (b₃ ++ d :: s))))
      = ':' :: (b₂ ++ (c ++ (b₃ ++ d :: s))) :=
    skipSpace_blank hb₁ rfl
  rw [readMembers.eq_2, hname]
  simp only [hcolon, hfront.skipSpace_eq hb₂, hread fuel _ hfuel hstops, hskip]
  rcases hd with rfl | rfl <;> simp

/-- After a member comes the sign that follows it. -/
theorem readMembers_value {b₁ b₂ c b₃ : List Char} {k : String} {v : Json} {d : Char}
    (hb₁ : Blank b₁) (hb₂ : Blank b₂) (hvalue : Writes (.value v) c) (hread : Reads (.value v) c)
    (hb₃ : Blank b₃) (hd : d = ',' ∨ d = '}') {fuel : Nat} (hfuel : 2 * c.length ≤ fuel)
    {acc : Members} (hnew : k ∉ acc.map (·.1)) (s : List Char) :
    readMembers (fuel + 1) acc (quote k ++ (b₁ ++ ':' :: (b₂ ++ (c ++ (b₃ ++ d :: s)))))
      = if d = ',' then readMembers fuel (acc ++ [(k, v)]) (skipSpace s)
        else .ok (.obj (acc ++ [(k, v)]), s) := by
  have hname : EndsText [] (k.toList.flatMap escapeChar ++ ['\x22']) k := fun start rest => by
    simpa using readText_quote start k rest
  have hmember := readMembers_member hname hb₁ hb₂ hvalue.front hread hb₃ hd hfuel acc s
  rw [put_new v hnew] at hmember
  simpa [quote] using hmember

/-- Whatever is written in one of the ways is read as what it writes. -/
theorem Writes.reads {p : Part} {cs : List Char} (h : Writes p cs) : Reads p cs := by
  -- each part is read with the fuel that its own text gives; what was read before is in `acc`
  induction h with
  | @simple v cs h =>
    intro fuel rest hfuel hrest
    obtain ⟨c, s, hfront, -⟩ := h.front
    obtain ⟨fuel, rfl⟩ : ∃ f, fuel = f + 1 := ⟨fuel - 1, by simp [hfront] at hfuel; omega⟩
    exact readValue_simple h hrest fuel
  | @emptyArr b hb =>
    intro fuel rest hfuel _
    obtain ⟨fuel, rfl⟩ : ∃ f, fuel = f + 1 := ⟨fuel - 1, by simp at hfuel; omega⟩
    have hskip : skipSpace (b ++ ']' :: rest) = ']' :: rest := skipSpace_blank hb rfl
    rw [List.cons_append, List.append_assoc, readValue.eq_3, List.singleton_append, hskip]
    rfl
  | @arr b cs vs hb hitems ih =>
    intro fuel rest hfuel _
    obtain ⟨fuel, rfl⟩ : ∃ f, fuel = f + 1 := ⟨fuel - 1, by simp at hfuel; omega⟩
    have hread := ih fuel [] rest (by simp at hfuel; omega)
    rw [List.cons_append, List.append_assoc, readValue.eq_3, hitems.front.skipSpace_eq hb]
    obtain ⟨c, s, rfl, hstart⟩ := hitems.front
    split
    · next e => exact absurd (List.cons.inj e).1 hstart.noBracket
    · exact hread
  | @emptyObj b hb =>
    intro fuel rest hfuel _
    obtain ⟨fuel, rfl⟩ : ∃ f, fuel = f + 1 := ⟨fuel - 1, by simp at hfuel; omega⟩
    have hskip : skipSpace (b ++ '}' :: rest) = '}' :: rest := skipSpace_blank hb rfl
    rw [List.cons_append, List.append_assoc, readValue.eq_4, List.singleton_append, hskip]
    rfl
  | @obj b cs ms hb hnames hmembers ih =>
    intro fuel rest hfuel _
    obtain ⟨fuel, rfl⟩ : ∃ f, fuel = f + 1 := ⟨fuel - 1, by simp at hfuel; omega⟩
    have hread := ih fuel [] rest (by simp at hfuel; omega) hnames
    rw [List.cons_append, List.append_assoc, readValue.eq_4, hmembers.front.skipSpace_eq hb]
    obtain ⟨c, s, rfl, hstart⟩ := hmembers.front
    split
    · next e => exact absurd (List.cons.inj e).1 hstart.noBrace
    · exact hread
  | @lastItem c b v _ hb ih =>
    intro fuel acc rest hfuel
    simp only [List.length_append, List.length_singleton] at hfuel
    obtain ⟨fuel, rfl⟩ : ∃ f, fuel = f + 1 := ⟨fuel - 1, by omega⟩
    rw [List.append_assoc, List.append_assoc, List.singleton_append,
      readItems_value ih hb (.inr rfl) (by omega)]
    simp
  | @item c b b' cs v vs _ hb hb' hmore ihvalue ihmore =>
    intro fuel acc rest hfuel
    simp only [List.length_append, List.length_cons] at hfuel
    obtain ⟨fuel, rfl⟩ : ∃ f, fuel = f + 1 := ⟨fuel - 1, by omega⟩
    rw [List.append_assoc, List.append_assoc, List.cons_append, List.append_assoc,
      readItems_value ihvalue hb (.inl rfl) (by omega), if_pos rfl, hmore.front.skipSpace_eq hb',
      ihmore fuel (v :: acc) rest (by omega)]
    simp
  | @lastMember b₁ b₂ b₃ c k v hb₁ hb₂ hvalue hb₃ ih =>
    intro fuel acc rest hfuel hnames
    simp only [List.length_append, List.length_cons] at hfuel
    obtain ⟨fuel, rfl⟩ : ∃ f, fuel = f + 1 := ⟨fuel - 1, by omega⟩
    have hnew := name_new hnames
    have htext : quote k ++ (b₁ ++ ':' :: (b₂ ++ (c ++ (b₃ ++ ['}'])))) ++ rest
        = quote k ++ (b₁ ++ ':' :: (b₂ ++ (c ++ (b₃ ++ '}' :: rest)))) := by simp
    rw [htext, readMembers_value hb₁ hb₂ hvalue ih hb₃ (.inr rfl) (by omega) hnew]
    simp
  | @member b₁ b₂ b₃ b₄ c cs k v ms hb₁ hb₂ hvalue hb₃ hb₄ hmore ihvalue ihmore =>
    intro fuel acc rest hfuel hnames
    simp only [List.length_append, List.length_cons] at hfuel
    obtain ⟨fuel, rfl⟩ : ∃ f, fuel = f + 1 := ⟨fuel - 1, by omega⟩
    have hnew := name_new hnames
    have htext : quote k ++ (b₁ ++ ':' :: (b₂ ++ (c ++ (b₃ ++ ',' :: (b₄ ++ cs))))) ++ rest
        = quote k ++ (b₁ ++ ':' :: (b₂ ++ (c ++ (b₃ ++ ',' :: (b₄ ++ (cs ++ rest)))))) := by simp
    rw [htext, readMembers_value hb₁ hb₂ hvalue ihvalue hb₃ (.inl rfl) (by omega) hnew, if_pos rfl,
      hmore.front.skipSpace_eq hb₄,
      ihmore fuel (acc ++ [(k, v)]) rest (by omega) (by simpa using hnames)]
    simp

end

/-- A text that writes a value holds this value. -/
theorem Writes.parse {v : Json} {cs : List Char} (h : Writes (.value v) cs) :
    Json.parse cs = .ok v := by
  obtain ⟨c, s, hfront, hstart⟩ := h.front
  have hskip : skipSpace cs = cs := by
    simpa using h.front.skipSpace_eq (b := []) (by simp [Blank]) []
  have hread := h.reads (2 * cs.length + 2) [] (Nat.le_add_right _ _) (by simp [Stops])
  rw [List.append_nil] at hread
  have hdocument : readDocument cs = .ok v := by
    rw [readDocument, hskip, hread]
    rfl
  -- a value does not start with the mark of the order of bytes
  unfold Json.parse
  split
  · exact absurd (List.cons.inj hfront).1.symm hstart.noMark
  · exact hdocument

/-- The items of an array end with its closing bracket. -/
theorem Writes.items_end {p : Part} {cs : List Char} (h : Writes p cs) {vs : List Json}
    (hp : p = .items vs) :
    ∃ front, cs = front ++ [']'] := by
  induction h generalizing vs with
  | @lastItem c b v _ _ _ => exact ⟨c ++ b, by simp⟩
  | @item c b b' cs v vs _ _ _ _ _ ih =>
    obtain ⟨front, rfl⟩ := ih rfl
    exact ⟨c ++ (b ++ ',' :: (b' ++ front)), by simp⟩
  | _ => cases hp

/-- An array is written between brackets. -/
theorem Writes.brackets {vs : List Json} {cs : List Char} (h : Writes (.value (.arr vs)) cs) :
    ∃ inner, cs = '[' :: (inner ++ [']']) := by
  cases h with
  | simple h => cases h
  | @emptyArr b _ => exact ⟨b, rfl⟩
  | @arr b cs _ _ hitems =>
    obtain ⟨front, rfl⟩ := hitems.items_end rfl
    exact ⟨b ++ front, by simp⟩

end Gleaner.Json
