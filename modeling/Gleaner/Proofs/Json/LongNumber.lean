/-
  Gleaner/Proofs/Json/LongNumber.lean
  ===================================
  **Long numbers.**  A whole number with more digits than the limit is well written, but no
  value: the text is not refused as Json, the number is.  `Meets` says, without the
  reader, in which texts it comes to such a number before it notices anything else, and
  these are the texts at which it fails so (`readDocument_tooManyDigits`).
-/
import Gleaner.Proofs.Json.Extent

namespace Gleaner.Json

open Text (Digits Whole asciiDigit)

/-! ### Texts with a long number -/

/-- A number ends here: what comes next are neither more digits nor a fraction or an exponent. -/
structure EndsNumber (rest : List Char) : Prop where
  noDigit : NoDigit rest
  noFraction : ∀ ds s, Digits ds → rest ≠ '.' :: (ds ++ s)
  noExponent : ∀ low ds cs s, Exponent low ds cs → NoDigit s → rest ≠ cs ++ s

inductive Spot where
  | value
  | items
  | members

/-- Behind well-formed parts alone stands a whole number of this many digits, more than are
    taken; what comes after it does not matter. -/
inductive Meets (n : Nat) : Spot → List Char → Prop
  | number {b w rest : List Char} (hb : Blank b) (negative : Bool) (hw : Whole w)
      (hlong : Text.maxDigits < w.length)
      (hn : w.length = n) (hrest : EndsNumber rest) :
      Meets n .value (b ++ (sign negative ++ (w ++ rest)))
  | array {b s : List Char} (hb : Blank b) (h : Meets n .items s) : Meets n .value (b ++ '[' :: s)
  | object {b s : List Char} (hb : Blank b) (h : Meets n .members s) : Meets n .value
      (b ++ '{' :: s)
  | item {s : List Char} (h : Meets n .value s) : Meets n .items s
  | laterItem {c s : List Char} {v : Json} (hc : readDocument c = .ok v) (h : Meets n .items s) :
      Meets n .items (c ++ ',' :: s)
  | member {k s : List Char} {name : String} (hk : readDocument k = .ok (.str name))
      (h : Meets n .value s) :
      Meets n .members (k ++ ':' :: s)
  | laterMember {k c s : List Char} {name : String} {v : Json}
      (hk : readDocument k = .ok (.str name))
      (hc : readDocument c = .ok v) (h : Meets n .members s) :
      Meets n .members (k ++ ':' :: (c ++ ',' :: s))

/-- A run of ones is a whole number. -/
theorem meets_ones {n : Nat} {rest : List Char} (hn : Text.maxDigits < n)
    (hrest : EndsNumber rest) :
    Meets n .value (List.replicate n '1' ++ rest) := by
  have hw : Whole (List.replicate n '1') := by
    refine ⟨fun c hc => (List.mem_replicate.mp hc).2 ▸ rfl, .inr ?_⟩
    obtain ⟨m, rfl⟩ : ∃ m, n = m + 1 := ⟨n - 1, by omega⟩
    exact ⟨'1', _, List.replicate_succ, by decide⟩
  have hlength : (List.replicate n '1').length = n := List.length_replicate
  exact .number blank_nil false hw (by omega) hlength hrest

/-- A bracket ends a number. -/
theorem endsNumber_bracket : EndsNumber [']'] where
  noDigit := by simp [NoDigit, asciiDigit]
  noFraction ds s _ := by simp
  noExponent low ds cs s hcs _ heq := by
    cases hcs with
    | bare hc | plus hc | minus hc => rcases hc with rfl | rfl <;> simp at heq

/-- A list of one long number. -/
theorem meets_list {n : Nat} (hn : Text.maxDigits < n) :
    Meets n .value ('[' :: (List.replicate n '1' ++ [']'])) :=
  .array blank_nil (.item (meets_ones hn endsNumber_bracket))

/-! ### Texts of one value -/

section
variable {s c b rest : List Char} {v : Json} {n : Nat}

theorem Blank.append {b' : List Char} (hb : Blank b) (hb' : Blank b') : Blank (b ++ b') := by
  intro c hc
  rcases List.mem_append.mp hc with hc | hc
  exacts [hb c hc, hb' c hc]

/-- Nothing but blanks is skipped to the end. -/
theorem skipSpace_nil_iff : skipSpace s = [] ↔ Blank s := by
  simp [skipSpace, Blank]

/-- A text of one value has blanks around what the value is taken from. -/
theorem readDocument_ok_iff : readDocument s = .ok v ↔
    ∃ b cs b', Blank b ∧ Blank b' ∧ s = b ++ (cs ++ b') ∧ StartsValue cs
      ∧ Yields readValue v cs := by
  constructor
  · intro h
    unfold readDocument at h
    split at h
    · cases h
    next w r hread =>
    split at h
    · next hend =>
      cases h
      obtain ⟨cs, hcs, hfront, hyields⟩ := (read_local _).1 _ _ _ hread
      obtain ⟨b, hb, hs⟩ := skipSpace_eq (s := s) rfl
      exact ⟨b, cs, r, hb, skipSpace_nil_iff.mp hend, hs.trans (congrArg (b ++ ·) hcs),
        hfront, hyields⟩
    · cases h
  · rintro ⟨b, cs, b', hb, hb', rfl, hfront, hyields⟩
    have hempty : Stops [] := by simp [Stops]
    have hstops : Stops b' := by simpa using stops_blank hb' hempty
    have hread := hyields (2 * (b ++ (cs ++ b')).length + 2) b'
      (by simp only [List.length_append]; omega) hstops
    rw [readDocument, hfront.skipSpace_eq hb, hread]
    simp only [skipSpace_nil_iff.mpr hb']

theorem readDocument_blank (hb : Blank b) (h : readDocument c = .ok v) :
    readDocument (b ++ c) = .ok v := by
  obtain ⟨b', cs, b'', hb', hb'', rfl, hfront, hyields⟩ := readDocument_ok_iff.mp h
  exact readDocument_ok_iff.mpr ⟨b ++ b', cs, b'', hb.append hb', hb'', by simp, hfront, hyields⟩

/-- Blanks in front change nothing. -/
theorem Meets.blank {spot : Spot} (h : Meets n spot s) (hb : Blank b) : Meets n spot (b ++ s) := by
  induction h with
  | number hb' negative hw hlong hn hrest =>
    rw [← List.append_assoc]
    exact .number (hb.append hb') negative hw hlong hn hrest
  | array hb' h =>
    rw [← List.append_assoc]
    exact .array (hb.append hb') h
  | object hb' h =>
    rw [← List.append_assoc]
    exact .object (hb.append hb') h
  | item h ih => exact .item ih
  | laterItem hc h =>
    rw [← List.append_assoc]
    exact .laterItem (readDocument_blank hb hc) h
  | member hk h =>
    rw [← List.append_assoc]
    exact .member (readDocument_blank hb hk) h
  | laterMember hk hc h =>
    rw [← List.append_assoc]
    exact .laterMember (readDocument_blank hb hk) hc h

/-- After blanks stands the start of a value. -/
theorem Meets.front {spot : Spot} (h : Meets n spot s) :
    ∃ b cs, Blank b ∧ s = b ++ cs ∧ StartsValue cs := by
  have hdocument : ∀ {c s : List Char} {v : Json}, readDocument c = .ok v →
      ∃ b cs, Blank b ∧ c ++ s = b ++ cs ∧ StartsValue cs := by
    intro c s v hc
    obtain ⟨b, cs, b', hb, -, rfl, hfront, -⟩ := readDocument_ok_iff.mp hc
    exact ⟨b, cs ++ (b' ++ s), hb, by simp, hfront.append _⟩
  induction h with
  | number hb negative hw _ _ _ =>
    obtain ⟨c, s, hfront, hc⟩ := signed_front negative hw _
    exact ⟨_, _, hb, rfl, c, s, hfront, hc.starts.1⟩
  | array hb _ => exact ⟨_, _, hb, rfl, '[', _, rfl, by decide⟩
  | object hb _ => exact ⟨_, _, hb, rfl, '{', _, rfl, by decide⟩
  | item _ ih => exact ih
  | laterItem hc _ => exact hdocument hc
  | member hk _ => exact hdocument hk
  | laterMember hk _ _ => exact hdocument hk

end

/-! ### The number itself -/

section
variable {s w rest : List Char} {n : Nat} {f : Failure}

/-- A number ends where no reader of digits, fractions or exponents goes on. -/
theorem endsNumber_iff :
    EndsNumber rest ↔ NoDigit rest ∧ fractionDigits rest = ([], rest)
      ∧ exponentDigits? rest = none := by
  constructor
  · intro h
    refine ⟨h.noDigit, ?_, ?_⟩
    · rcases fractionDigits_cases rest with ⟨hnone, -⟩ | ⟨ds, u, hds, hrest, -⟩
      · exact hnone
      · exact (h.noFraction ds u hds hrest).elim
    · cases hexponent : exponentDigits? rest with
      | none => rfl
      | some found =>
        obtain ⟨low, ds, s⟩ := found
        obtain ⟨cs, hcs, hrest, hs⟩ := exponentDigits?_eq_some.mp hexponent
        exact (h.noExponent low ds cs s hcs hs hrest).elim
  · rintro ⟨hdigit, hfraction, hexponent⟩
    refine ⟨hdigit, ?_, ?_⟩
    · rintro ds s hds rfl
      obtain ⟨c, more, rfl⟩ := List.exists_cons_of_ne_nil hds.nonempty
      have hc := hds.digits c List.mem_cons_self
      simp [fractionDigits, hc] at hfraction
    · rintro low ds cs s hcs hs rfl
      rw [exponentDigits?_eq_some.mpr ⟨cs, hcs, rfl, hs⟩] at hexponent
      cases hexponent

/-- A magnitude is refused for its length exactly if it is a long whole number. -/
theorem readMagnitude_tooManyDigits {negative : Bool} {start : List Char} :
    (∃ r, readMagnitude negative start s = .error ⟨.tooManyDigits n, r⟩)
      ↔ ∃ w rest, Whole w ∧ Text.maxDigits < w.length ∧ w.length = n ∧ EndsNumber rest
        ∧ s = w ++ rest := by
  constructor
  · rintro ⟨r, h⟩
    unfold readMagnitude at h
    split at h
    · cases h
    next w u hwhole =>
    obtain ⟨hw, rfl, hrun⟩ := wholeDigits?_eq_some hwhole
    dsimp only at h
    split at h
    · cases h
    next hexponent =>
    split at h
    · next hempty =>
      split at h
      · next hlong =>
        cases h
        -- no fraction was read, so the exponent is missed right after the digits
        have hfraction : fractionDigits u = ([], u) := by
          rcases fractionDigits_cases u with ⟨hnone, -⟩ | ⟨ds, v, hds, -, hread⟩
          · exact hnone
          · rw [hread] at hempty
            exact (hds.nonempty (by simpa using hempty)).elim
        have hdigit : NoDigit u := hrun.resolve_left fun hzero => by
          rw [hzero] at hlong
          exact absurd hlong (by decide)
        rw [hfraction] at hexponent
        exact ⟨w, u, hw, hlong, rfl, endsNumber_iff.mpr ⟨hdigit, hfraction, hexponent⟩, rfl⟩
      · cases h
    · cases h
  · rintro ⟨w, rest, hw, hlong, rfl, hrest, rfl⟩
    obtain ⟨hdigit, hfraction, hexponent⟩ := endsNumber_iff.mp hrest
    refine ⟨start, ?_⟩
    rw [readMagnitude, wholeDigits?_whole hw _ hdigit]
    simp [hfraction, hexponent, hlong, failAt]

/-- An atom fails for its length exactly if it is a whole number with too many digits. -/
theorem readAtom_tooManyDigits : (∃ r, readAtom s = .error ⟨.tooManyDigits n, r⟩)
    ↔ ∃ negative w rest, Whole w ∧ Text.maxDigits < w.length ∧ w.length = n ∧ EndsNumber rest
        ∧ s = sign negative ++ (w ++ rest) := by
  constructor
  · rintro ⟨r, h⟩
    unfold readAtom at h
    split at h
    · cases h
    · split at h
      · obtain ⟨w, rest, hw, hlong, hn, hrest, rfl⟩ := readMagnitude_tooManyDigits.mp ⟨r, h⟩
        exact ⟨true, w, rest, hw, hlong, hn, hrest, rfl⟩
      · obtain ⟨w, rest, hw, hlong, hn, hrest, rfl⟩ := readMagnitude_tooManyDigits.mp ⟨r, h⟩
        exact ⟨false, w, rest, hw, hlong, hn, hrest, rfl⟩
  · rintro ⟨negative, w, rest, hw, hlong, hn, hrest, rfl⟩
    rw [readAtom_signed negative hw]
    exact readMagnitude_tooManyDigits.mpr ⟨w, rest, hw, hlong, hn, hrest, rfl⟩

/-- A text is refused for other reasons. -/
theorem readText_error {start acc : List Char} (h : readText start acc s = .error f) (n : Nat) :
    f.problem ≠ .tooManyDigits n := by
  fun_induction readText start acc s <;> simp_all [failAt] <;> subst h <;> simp

end

/-! ### Into a text -/

section
variable {n fuel : Nat} {s r : List Char} {v : Json}

/-- A part that was read, with the sign that follows it. -/
theorem readValue_part {d : Char} {t : List Char} (h : readValue fuel s = .ok (v, r))
    (hskip : skipSpace r = d :: t) :
    ∃ c, s = c ++ d :: t ∧ readDocument c = .ok v := by
  obtain ⟨cs, rfl, hfront, hyields⟩ := (read_local fuel).1 s v r h
  obtain ⟨b, hb, rfl⟩ := skipSpace_eq hskip
  exact ⟨cs ++ b, by simp, readDocument_ok_iff.mpr ⟨[], cs, b, blank_nil, hb, rfl, hfront, hyields⟩⟩

def Blames (n : Nat) (spot : Spot) (read : List Char → Reading Json) : Prop :=
  ∀ s r, read s = .error ⟨.tooManyDigits n, r⟩ → Meets n spot s

theorem blames_value (hitems : Blames n .items (readItems fuel []))
    (hmembers : Blames n .members (readMembers fuel [])) :
    Blames n .value (readValue (fuel + 1)) := by
  intro s r h
  rw [readValue.eq_def] at h
  simp only at h
  split at h
  · next s =>
    cases htext : readText ('\x22' :: s) [] s with
    | ok t => simp [htext, Except.map] at h
    | error f =>
      rw [htext] at h
      exact (readText_error htext n (by rw [Except.error.inj h])).elim
  · next s =>
    split at h
    · cases h
    · obtain ⟨b, hb, hs⟩ := skipSpace_eq (s := s) rfl
      rw [hs]
      exact .array blank_nil ((hitems _ r h).blank hb)
  · next s =>
    split at h
    · cases h
    · obtain ⟨b, hb, hs⟩ := skipSpace_eq (s := s) rfl
      rw [hs]
      exact .object blank_nil ((hmembers _ r h).blank hb)
  · obtain ⟨negative, w, rest, hw, hlong, hn, hrest, rfl⟩ := readAtom_tooManyDigits.mp ⟨r, h⟩
    exact .number blank_nil negative hw hlong hn hrest

theorem blames_items (hvalue : Blames n .value (readValue fuel))
    (hitems : ∀ acc, Blames n .items (readItems fuel acc)) (acc : List Json) :
    Blames n .items (readItems (fuel + 1) acc) := by
  intro s r h
  rw [readItems] at h
  split at h
  · next e hread =>
    cases h
    exact .item (hvalue s r hread)
  · next v u hread =>
    split at h
    · cases h
    · next t hskip =>
      obtain ⟨c, rfl, hc⟩ := readValue_part hread hskip
      obtain ⟨b, hb, ht⟩ := skipSpace_eq (s := t) rfl
      rw [ht]
      exact .laterItem hc ((hitems _ _ r h).blank hb)
    · cases h

theorem blames_members (hvalue : Blames n .value (readValue fuel))
    (hmembers : ∀ acc, Blames n .members (readMembers fuel acc)) (acc : Members) :
    Blames n .members (readMembers (fuel + 1) acc) := by
  intro s r h
  rw [readMembers.eq_def] at h
  simp only at h
  split at h
  · next s =>
    split at h
    · next e hname =>
      cases h
      exact (readText_error hname n rfl).elim
    next name u hname =>
    split at h
    · next t hcolon =>
      have hnameValue : readValue 1 ('\x22' :: s) = .ok (.str name, u) := by
        rw [readValue.eq_2, hname]
        rfl
      obtain ⟨k, hk, hkread⟩ := readValue_part hnameValue hcolon
      obtain ⟨b, hb, ht⟩ := skipSpace_eq (s := t) rfl
      rw [hk, ht]
      split at h
      · next e hread =>
        cases h
        exact .member hkread ((hvalue _ r hread).blank hb)
      · next v u hread =>
        split at h
        · cases h
        · next t' hskip =>
          obtain ⟨c, hc, hcread⟩ := readValue_part hread hskip
          obtain ⟨b', hb', ht'⟩ := skipSpace_eq (s := t') rfl
          rw [hc, ht', ← List.append_assoc]
          exact .laterMember hkread (readDocument_blank hb hcread) ((hmembers _ _ r h).blank hb')
        · cases h
    · cases h
  · cases h

/-- By induction on the fuel: what is read blames a number on the way. -/
theorem read_blames (n fuel : Nat) :
    Blames n .value (readValue fuel) ∧ (∀ acc, Blames n .items (readItems fuel acc))
    ∧ ∀ acc, Blames n .members (readMembers fuel acc) := by
  induction fuel with
  | zero =>
      exact ⟨fun _ _ h => (by cases h), fun _ _ _ h => (by cases h), fun _ _ _ h => (by cases h)⟩
  | succ fuel ih =>
    obtain ⟨hvalue, hitems, hmembers⟩ := ih
    exact ⟨blames_value (hitems []) (hmembers []), blames_items hvalue hitems,
      blames_members hvalue hmembers⟩

end

/-! ### Out of a text -/

section
variable {n fuel : Nat} {s : List Char}

/-- The reader comes to the number, with as much fuel as the text is long, twice over. -/
def Stumbles (n : Nat) : Spot → List Char → Prop
  | .value, s =>
      ∀ fuel, 2 * s.length < fuel → ∃ r, readValue fuel (skipSpace s) = .error ⟨.tooManyDigits n, r⟩
  | .items, s => ∀ fuel acc, 2 * s.length + 1 < fuel →
      ∃ r, readItems fuel acc (skipSpace s) = .error ⟨.tooManyDigits n, r⟩
  | .members, s => ∀ fuel acc, 2 * s.length + 1 < fuel →
      ∃ r, readMembers fuel acc (skipSpace s) = .error ⟨.tooManyDigits n, r⟩

/-- The text of a name opens with a quote. -/
theorem Yields.name {cs : List Char} {name : String} (h : Yields readValue (.str name) cs) :
    ∃ u, cs = '\x22' :: u ∧ EndsText [] u name := by
  have hread := h (2 * cs.length + 1) [] (by omega) (by simp [Stops])
  rw [List.append_nil] at hread
  obtain ⟨s, rfl⟩ := List.head?_eq_some_iff.mp (readValue_opening hread rfl)
  rw [readValue.eq_2] at hread
  obtain ⟨⟨t, _⟩, htext, heq⟩ := map_eq_ok.mp hread
  cases heq
  obtain ⟨cs, hcs, hends⟩ := readText_extent htext
  rw [List.append_nil] at hcs
  exact ⟨cs, by rw [hcs], hends⟩

/-- Who meets a long number stumbles over it.  By induction on the way to it; the
    well-formed parts before it are read by the lemmas on what is written. -/
theorem Meets.stumbles {spot : Spot} (h : Meets n spot s) : Stumbles n spot s := by
  induction h with
  | @number b w rest hb negative hw hlong hn hrest =>
    intro fuel hfuel
    obtain ⟨fuel, rfl⟩ : ∃ f, fuel = f + 1 := ⟨fuel - 1, by omega⟩
    obtain ⟨c, s, hfront, hc⟩ := signed_front negative hw rest
    rw [hfront, skipSpace_blank hb hc.starts.1.solid, ← hfront]
    have hatom : readValue (fuel + 1) (sign negative ++ (w ++ rest) ++ [])
        = readAtom (sign negative ++ (w ++ rest) ++ []) := readValue_number ⟨c, s, hfront, hc⟩ fuel
    rw [List.append_nil] at hatom
    rw [hatom]
    exact readAtom_tooManyDigits.mpr ⟨negative, w, rest, hw, hlong, hn, hrest, rfl⟩
  | @array b s hb h ih =>
    intro fuel hfuel
    simp only [List.length_append, List.length_cons] at hfuel
    obtain ⟨fuel, rfl⟩ : ∃ f, fuel = f + 1 := ⟨fuel - 1, by omega⟩
    rw [skipSpace_blank hb rfl, readValue_array, if_neg]
    · exact ih fuel [] (by omega)
    · obtain ⟨b', cs, hb', rfl, c, more, rfl, hc⟩ := h.front
      rw [skipSpace_blank hb' hc.solid]
      simpa using hc.noBracket
  | @object b s hb h ih =>
    intro fuel hfuel
    simp only [List.length_append, List.length_cons] at hfuel
    obtain ⟨fuel, rfl⟩ : ∃ f, fuel = f + 1 := ⟨fuel - 1, by omega⟩
    rw [skipSpace_blank hb rfl, readValue_object, if_neg]
    · exact ih fuel [] (by omega)
    · obtain ⟨b', cs, hb', rfl, c, more, rfl, hc⟩ := h.front
      rw [skipSpace_blank hb' hc.solid]
      simpa using hc.noBrace
  | @item s h ih =>
    intro fuel acc hfuel
    obtain ⟨fuel, rfl⟩ : ∃ f, fuel = f + 1 := ⟨fuel - 1, by omega⟩
    obtain ⟨r, hread⟩ := ih fuel (by omega)
    exact ⟨r, by rw [readItems, hread]⟩
  | @laterItem c s v hc h ih =>
    intro fuel acc hfuel
    obtain ⟨b, cs, b', hb, hb', rfl, hfront, hyields⟩ := readDocument_ok_iff.mp hc
    simp only [List.length_append, List.length_cons] at hfuel
    obtain ⟨fuel, rfl⟩ : ∃ f, fuel = f + 1 := ⟨fuel - 1, by omega⟩
    have hvaluefuel : 2 * cs.length ≤ fuel := by omega
    have hitem := readItems_value hyields hb' (.inl rfl) hvaluefuel acc s
    rw [List.append_assoc, List.append_assoc, hfront.skipSpace_eq hb, hitem, if_pos rfl]
    exact ih fuel (v :: acc) (by omega)
  | @member k s name hk h ih =>
    intro fuel acc hfuel
    obtain ⟨b, cs, b', hb, hb', rfl, hfront, hyields⟩ := readDocument_ok_iff.mp hk
    obtain ⟨u, rfl, hends⟩ := hyields.name
    simp only [List.length_append, List.length_cons] at hfuel
    obtain ⟨fuel, rfl⟩ : ∃ f, fuel = f + 1 := ⟨fuel - 1, by omega⟩
    obtain ⟨r, hread⟩ := ih fuel (by omega)
    have hcolon : skipSpace (b' ++ ':' :: s) = ':' :: s := skipSpace_blank hb' rfl
    refine ⟨r, ?_⟩
    rw [List.append_assoc, List.append_assoc, hfront.skipSpace_eq hb, List.cons_append,
      readMembers.eq_2, hends]
    simp only [hcolon, hread]
  | @laterMember k c s name v hk hc h ih =>
    intro fuel acc hfuel
    obtain ⟨b, cs, b', hb, hb', rfl, hfront, hyields⟩ := readDocument_ok_iff.mp hk
    obtain ⟨u, rfl, hends⟩ := hyields.name
    obtain ⟨b₂, cs, b₃, hb₂, hb₃, rfl, hfront₂, hyields₂⟩ := readDocument_ok_iff.mp hc
    simp only [List.length_append, List.length_cons] at hfuel
    obtain ⟨fuel, rfl⟩ : ∃ f, fuel = f + 1 := ⟨fuel - 1, by omega⟩
    have hvaluefuel : 2 * cs.length ≤ fuel := by omega
    have hmember :=
      readMembers_member hends hb' hb₂ hfront₂ hyields₂ hb₃ (.inl rfl) hvaluefuel acc s
    rw [if_pos rfl] at hmember
    obtain ⟨r, hread⟩ := ih fuel (put name v acc) (by omega)
    refine ⟨r, ?_⟩
    rw [List.append_assoc, List.append_assoc, hfront.skipSpace_eq hb, ← hread, ← hmember]
    simp

/-- A text fails for the length of a number exactly if such a number is met in it. -/
theorem readDocument_tooManyDigits :
    (∃ r, readDocument s = .error ⟨.tooManyDigits n, r⟩) ↔ Meets n .value s := by
  constructor
  · rintro ⟨r, h⟩
    unfold readDocument at h
    split at h
    · next e hread =>
      cases h
      obtain ⟨b, hb, hs⟩ := skipSpace_eq (s := s) rfl
      rw [hs]
      exact ((read_blames n _).1 _ r hread).blank hb
    · split at h <;> cases h
  · intro h
    obtain ⟨r, hread⟩ := h.stumbles (2 * s.length + 2) (by omega)
    exact ⟨r, by rw [readDocument, hread]⟩

/-- The whole text fails for the length of a number exactly if the reader comes to one. -/
theorem parse_tooManyDigits : (∃ r, parse s = .error ⟨.tooManyDigits n, r⟩) ↔ Meets n .value s := by
  unfold parse
  split
  · next s =>
    constructor
    · rintro ⟨r, h⟩
      cases h
    · intro h
      -- the mark neither is a blank nor starts a value
      obtain ⟨b, cs, hb, hs, c, more, rfl, hc⟩ := h.front
      cases b with
      | nil => exact (hc.noMark (List.cons.inj hs).1.symm).elim
      | cons d b =>
        obtain ⟨rfl, -⟩ := List.cons.inj hs
        cases hb _ List.mem_cons_self
  · exact readDocument_tooManyDigits

end

end Gleaner.Json
