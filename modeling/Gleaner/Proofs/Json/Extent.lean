/-
  Gleaner/Proofs/Json/Extent.lean
  ===============================
  **How far a value goes.**  The reader takes a value from characters of its own: what
  follows them makes no difference, if it does not go on with a number (`read_local`).
  So each part of a text can be read alone.
-/
import Gleaner.Proofs.Fault
import Gleaner.Proofs.Json.Read
import Gleaner.Proofs.Json.Written
import Gleaner.Proofs.Text.Trim

namespace Gleaner.Json

open Text (Digits Whole asciiDigit takeWhile_run dropWhile_run)

/-! ### Numbers -/

def NoDigit (rest : List Char) : Prop := ∀ c ∈ rest.head?, asciiDigit c = false

/-- The texts of an exponent with these digits, a low one if it has a minus. -/
inductive Exponent : Bool → List Char → List Char → Prop
  | bare {c : Char} {ds : List Char} (hc : c = 'e' ∨ c = 'E') (hds : Digits ds) :
      Exponent false ds (c :: ds)
  | plus {c : Char} {ds : List Char} (hc : c = 'e' ∨ c = 'E') (hds : Digits ds) : Exponent false ds
      (c :: '+' :: ds)
  | minus {c : Char} {ds : List Char} (hc : c = 'e' ∨ c = 'E') (hds : Digits ds) : Exponent true ds
      (c :: '-' :: ds)

section
variable {s w r rest ds cs : List Char} {v : Json} {low negative : Bool}

theorem noDigit_dropWhile (s : List Char) : NoDigit (s.dropWhile asciiDigit) := by
  induction s with
  | nil => simp [NoDigit]
  | cons c s ih =>
    by_cases hc : asciiDigit c = true
    · simpa [hc] using ih
    · simp [NoDigit, hc]

theorem digits_takeWhile {c : Char} (hc : asciiDigit c = true) (s : List Char) :
    Digits (c :: s.takeWhile asciiDigit) where
  nonempty := List.cons_ne_nil _ _
  digits := List.forall_mem_cons.mpr ⟨hc, fun _ hd => List.mem_takeWhile_imp hd⟩

/-- The whole part is a front of the text, with all its digits if it is not one zero. -/
theorem wholeDigits?_eq_some (h : wholeDigits? s = some (w, r)) :
    Whole w ∧ s = w ++ r ∧ (w = ['0'] ∨ NoDigit r) := by
  have hdigits := wholeDigits?_digits h
  unfold wholeDigits? at h
  split at h
  · cases h
    exact ⟨⟨hdigits, .inl rfl⟩, rfl, .inl rfl⟩
  · next c s hzero =>
    split at h
    · cases h
      have hc : c ≠ '0' := hzero
      exact ⟨⟨hdigits, .inr ⟨c, _, rfl, hc⟩⟩, by simp [List.takeWhile_append_dropWhile],
        .inr (noDigit_dropWhile s)⟩
    · cases h
  · cases h

/-- A fraction is read, or none comes first. -/
theorem fractionDigits_cases (s : List Char) :
    (fractionDigits s = ([], s) ∧ ∀ c u, s = '.' :: c :: u → asciiDigit c = false)
      ∨ ∃ ds u, Digits ds ∧ s = '.' :: (ds ++ u) ∧ fractionDigits s = (ds, u) := by
  unfold fractionDigits
  split
  · next c u =>
    by_cases hc : asciiDigit c = true
    · refine .inr ⟨_, _, digits_takeWhile hc u, ?_, if_pos hc⟩
      simp [List.takeWhile_append_dropWhile]
    · refine .inl ⟨if_neg hc, ?_⟩
      rintro _ _ ⟨⟩
      simpa using hc
  · next hne => exact .inl ⟨rfl, fun c u hs => (hne c u hs).elim⟩

/-- A run of digits is read if it is not empty. -/
theorem digitRun_eq_some {b : Bool} {t : List Char} :
    (if (t.takeWhile asciiDigit).isEmpty then none else some
      (b, t.takeWhile asciiDigit, t.dropWhile asciiDigit))
      = some (low, ds, r) ↔ b = low ∧ Digits ds ∧ t = ds ++ r ∧ NoDigit r := by
  constructor
  · intro h
    split at h
    · cases h
    · next hne =>
      cases h
      refine ⟨rfl, ⟨by simpa using hne, fun _ hd => List.mem_takeWhile_imp hd⟩, ?_,
        noDigit_dropWhile t⟩
      exact List.takeWhile_append_dropWhile.symm
  · rintro ⟨rfl, hds, rfl, hr⟩
    rw [takeWhile_run hds.digits hr, dropWhile_run hds.digits hr,
      if_neg (by simpa using hds.nonempty)]

/-- An exponent is read exactly if one comes first. -/
theorem exponentDigits?_eq_some :
    exponentDigits? s = some (low, ds, r) ↔ ∃ cs, Exponent low ds cs ∧ s = cs ++ r ∧ NoDigit r := by
  constructor
  · intro h
    rcases s with _ | ⟨c, s⟩
    · cases h
    unfold exponentDigits? at h
    dsimp only at h
    split at h
    · next hc =>
      split at h
      · obtain ⟨rfl, hds, rfl, hr⟩ := digitRun_eq_some.mp h
        exact ⟨_, .minus hc hds, rfl, hr⟩
      · obtain ⟨rfl, hds, rfl, hr⟩ := digitRun_eq_some.mp h
        exact ⟨_, .plus hc hds, rfl, hr⟩
      · obtain ⟨rfl, hds, rfl, hr⟩ := digitRun_eq_some.mp h
        exact ⟨_, .bare hc hds, rfl, hr⟩
    · cases h
  · rintro ⟨cs, hcs, rfl, hr⟩
    cases hcs with
    | bare hc hds =>
      obtain ⟨d, more, rfl⟩ := List.exists_cons_of_ne_nil hds.nonempty
      have hd := hds.digits d List.mem_cons_self
      unfold exponentDigits?
      dsimp only [List.cons_append]
      rw [if_pos hc]
      split
      · next heq =>
        obtain ⟨rfl, -⟩ := List.cons.inj heq
        cases hd
      · next heq =>
        obtain ⟨rfl, -⟩ := List.cons.inj heq
        cases hd
      · exact digitRun_eq_some.mpr ⟨rfl, hds, rfl, hr⟩
    | plus hc hds => exact (if_pos hc).trans (digitRun_eq_some.mpr ⟨rfl, hds, rfl, hr⟩)
    | minus hc hds => exact (if_pos hc).trans (digitRun_eq_some.mpr ⟨rfl, hds, rfl, hr⟩)


def Outside (rest : List Char) : Prop := ∀ c ∈ rest.head?, asciiDigit c = false ∧ c ≠ '.'

theorem Stops.isOutside (h : Stops rest) : Outside rest :=
  fun _ hc => ⟨(h.outside hc).1, (h.outside hc).2.1⟩

theorem Exponent.isOutside (h : Exponent low ds cs) (rest : List Char) : Outside (cs ++ rest) := by
  have hfront : ∀ c, c = 'e' ∨ c = 'E' → asciiDigit c = false ∧ c ≠ '.' := by
    rintro c (rfl | rfl) <;> exact ⟨rfl, by decide⟩
  intro d hd
  cases h with
  | @bare c _ hc | @plus c _ hc | @minus c _ hc =>
    obtain rfl : c = d := by simpa using hd
    exact hfront c hc

/-- A fraction is read from its own characters. -/
theorem fractionDigits_extent (u : List Char) : ∃ cs, u = cs ++ (fractionDigits u).2
    ∧ ∀ rest, Outside rest → NoDigit (cs ++ rest)
    ∧ fractionDigits (cs ++ rest) = ((fractionDigits u).1, rest) := by
  rcases fractionDigits_cases u with ⟨hnone, -⟩ | ⟨ds, u', hds, rfl, hfraction⟩
  · rw [hnone]
    refine ⟨[], rfl, fun rest hrest => ⟨fun c hc => (hrest c hc).1, ?_⟩⟩
    exact fractionDigits_none rest fun c hc => (hrest c hc).2
  · rw [hfraction]
    refine ⟨'.' :: ds, rfl, fun rest hrest => ⟨?_,
      fractionDigits_digits hds rest fun c hc => (hrest c hc).1⟩⟩
    intro c hc
    obtain rfl : '.' = c := by simpa using hc
    rfl

/-- A number is read from its own digits, whatever follows that does not go on with it. -/
theorem readMagnitude_extent {start : List Char} (h : readMagnitude negative start s = .ok (v, r)) :
    ∃ w t, Whole w ∧ s = w ++ (t ++ r)
      ∧ ∀ start rest, Stops rest →
        readMagnitude negative start (w ++ (t ++ rest)) = .ok (v, rest) := by
  unfold readMagnitude at h
  split at h
  · cases h
  next w u hwhole =>
  obtain ⟨hw, rfl, -⟩ := wholeDigits?_eq_some hwhole
  obtain ⟨fs, hu, hfraction⟩ := fractionDigits_extent u
  dsimp only at h
  split at h
  · next low e _ hexponent =>
    cases h
    obtain ⟨cs, hcs, hafter, hr⟩ := exponentDigits?_eq_some.mp hexponent
    refine ⟨w, fs ++ cs, hw, by rw [List.append_assoc, ← hafter, ← hu], fun start rest hrest => ?_⟩
    obtain ⟨hnodigit, hread⟩ := hfraction _ (hcs.isOutside rest)
    have hread' := exponentDigits?_eq_some.mpr ⟨cs, hcs, rfl, hrest.noDigit⟩
    rw [List.append_assoc, readMagnitude, wholeDigits?_whole hw _ hnodigit]
    simp only [hread, hread']
  · refine ⟨w, fs, hw, ?_, fun start rest hrest => ?_⟩
    · have hend : r = (fractionDigits u).2 := by
        split at h
        · split at h
          · cases h
          · cases h
            rfl
        · cases h
          rfl
      rw [hend, ← hu]
    · obtain ⟨hnodigit, hread⟩ := hfraction _ hrest.isOutside
      rw [readMagnitude, wholeDigits?_whole hw _ hnodigit]
      simp only [hread, exponentDigits?_none hrest]
      split at h
      · next hempty =>
        rw [if_pos hempty]
        split at h
        · cases h
        · next hfew =>
          cases h
          rw [if_neg hfew]
      · next hsome =>
        cases h
        rw [if_neg hsome]

end

/-! ### Words and numbers -/

section
variable {s c r rest : List Char} {v : Json}

/-- A word is a front of the text. -/
theorem readLiteral?_eq_some {words : List (String × Json)}
    (h : readLiteral? s words = some (v, r)) :
    ∃ word, (word, v) ∈ words ∧ s = word.toList ++ r := by
  induction words with
  | nil => cases h
  | cons w words ih =>
    obtain ⟨word, value⟩ := w
    rw [readLiteral?] at h
    split at h
    · next front hfront =>
      cases h
      exact ⟨word, List.mem_cons_self, Text.dropFront?_eq_some_iff.mp hfront⟩
    · obtain ⟨word', hmem, hs⟩ := ih h
      exact ⟨word', List.mem_cons_of_mem _ hmem, hs⟩

def StartsAtom (c : Char) : Prop := Starts c ∧ c ≠ '\x22' ∧ c ≠ '[' ∧ c ≠ '{'

/-- A word is read as its value. -/
theorem readAtom_word {word : String} (h : (word, v) ∈ literals) :
    (∃ c more, word.toList = c :: more ∧ StartsAtom c)
      ∧ ∀ rest, readAtom (word.toList ++ rest) = .ok (v, rest) := by
  simp only [literals, List.mem_cons, Prod.mk.injEq, List.not_mem_nil, or_false] at h
  rcases h with ⟨rfl, rfl⟩ | ⟨rfl, rfl⟩ | ⟨rfl, rfl⟩ | ⟨rfl, rfl⟩ | ⟨rfl, rfl⟩ | ⟨rfl, rfl⟩
  all_goals exact ⟨⟨_, _, rfl, by decide, by decide⟩, fun _ => rfl⟩

/-- A word or number is read from its own characters, whatever follows that does not go on
    with it. -/
theorem readAtom_extent (h : readAtom s = .ok (v, r)) : ∃ cs, s = cs ++ r
    ∧ (∃ c more, cs = c :: more ∧ StartsAtom c)
    ∧ ∀ rest, Stops rest → readAtom (cs ++ rest) = .ok (v, rest) := by
  -- a number after its sign is read as it is without one
  have hsigned : ∀ negative t start, readMagnitude negative start t = .ok (v, r) →
    s = sign negative ++ t → ∃ cs, s = cs ++ r ∧ (∃ c more, cs = c :: more ∧ StartsAtom c)
        ∧ ∀ rest, Stops rest → readAtom (cs ++ rest) = .ok (v, rest) := by
    rintro negative t start hread rfl
    obtain ⟨w, tail, hw, rfl, hextent⟩ := readMagnitude_extent hread
    obtain ⟨c, more, hfront, hc⟩ := signed_front negative hw tail
    refine ⟨sign negative ++ (w ++ tail), by simp, ⟨c, more, hfront, hc.starts⟩,
      fun rest hrest => ?_⟩
    rw [List.append_assoc, List.append_assoc, readAtom_signed negative hw, hextent _ rest hrest]
  unfold readAtom at h
  split at h
  · next found hword =>
    obtain rfl := Except.ok.inj h
    obtain ⟨word, hmem, rfl⟩ := readLiteral?_eq_some hword
    obtain ⟨hfront, hread⟩ := readAtom_word hmem
    exact ⟨word.toList, rfl, hfront, fun rest _ => hread rest⟩
  · split at h
    · next t _ => exact hsigned true t _ h rfl
    · exact hsigned false s _ h rfl

end

/-! ### Values -/

section
variable {s r b cs : List Char}

/-- Blanks are skipped as far as a character that is none. -/
theorem skipSpace_eq (h : skipSpace s = r) : ∃ b, Blank b ∧ s = b ++ r :=
  ⟨s.takeWhile isSpace, fun _ hc => List.mem_takeWhile_imp hc, by
    rw [← h, skipSpace, List.takeWhile_append_dropWhile]⟩

/-- The reader takes a result from these characters, with as much fuel as they are long, twice
    over, whatever follows that does not go on with a number. -/
def Yields (read : Nat → List Char → Reading Json) (v : Json) (cs : List Char) : Prop :=
  ∀ fuel rest, 2 * cs.length ≤ fuel → Stops rest → read fuel (cs ++ rest) = .ok (v, rest)

/-- A result that takes one step more for these characters. -/
theorem Yields.of_step {read : Nat → List Char → Reading Json} {v : Json} (hne : cs ≠ [])
    (h : ∀ fuel rest, 2 * cs.length ≤ fuel + 1 → Stops rest →
      read (fuel + 1) (cs ++ rest) = .ok (v, rest)) :
    Yields read v cs := by
  intro fuel rest hfuel hrest
  have hpos : 0 < cs.length := List.length_pos_iff.mpr hne
  obtain ⟨fuel, rfl⟩ : ∃ f, fuel = f + 1 := ⟨fuel - 1, by omega⟩
  exact h fuel rest hfuel hrest

/-- The result is taken from characters of its own. -/
def Local (read : Nat → List Char → Reading Json) (fuel : Nat) : Prop :=
  ∀ s v r, read fuel s = .ok (v, r) → ∃ cs, s = cs ++ r ∧ StartsValue cs ∧ Yields read v cs

section
variable {fuel : Nat}

/-- An array or object is read from its own characters, if what is in it is: the reader takes
    what is empty on seeing the closing sign, and otherwise goes on inside. -/
theorem local_enclosed {o e : Char} {empty : Json} {inside : Nat → List Char → Reading Json}
    (ho : Starts o) (he : isSpace e = false) (hne : ∀ c, Starts c → c ≠ e)
    (hread : ∀ fuel s, readValue (fuel + 1) (o :: s) = if (skipSpace s).head? = some e
      then .ok (empty, (skipSpace s).tail) else inside fuel (skipSpace s))
    (hinside : Local inside fuel) {s r : List Char} {v : Json}
    (h : readValue (fuel + 1) (o :: s) = .ok (v, r)) :
    ∃ cs, o :: s = cs ++ r ∧ StartsValue cs ∧ Yields readValue v cs := by
  rw [hread] at h
  split at h
  · next hclose =>
    obtain ⟨t, hskip⟩ := List.head?_eq_some_iff.mp hclose
    obtain ⟨b, hb, rfl⟩ := skipSpace_eq hskip
    rw [hskip] at h
    cases h
    refine ⟨o :: (b ++ [e]), by simp, ⟨o, _, rfl, ho⟩,
      .of_step (List.cons_ne_nil _ _) fun fuel rest _ _ => ?_⟩
    have hend : skipSpace (b ++ e :: rest) = e :: rest := skipSpace_blank hb he
    rw [List.cons_append, List.append_assoc, List.singleton_append, hread, hend]
    exact if_pos rfl
  · obtain ⟨b, hb, hs⟩ := skipSpace_eq (s := s) rfl
    obtain ⟨cs, hcs, hfront, hyields⟩ := hinside _ v r h
    refine ⟨o :: (b ++ cs), by rw [hs, hcs]; simp, ⟨o, _, rfl, ho⟩,
      .of_step (List.cons_ne_nil _ _) ?_⟩
    intro fuel rest hfuel hrest
    simp only [List.length_cons, List.length_append] at hfuel
    have hopen : (cs ++ rest).head? ≠ some e := by
      obtain ⟨c, more, rfl, hc⟩ := hfront
      simpa using hne c hc
    rw [List.cons_append, List.append_assoc, hread, hfront.skipSpace_eq hb, if_neg hopen]
    exact hyields fuel rest (by omega) hrest

theorem readValue_array (fuel : Nat) (s : List Char) : readValue (fuel + 1) ('[' :: s) =
    if (skipSpace s).head? = some ']' then .ok (.arr [], (skipSpace s).tail)
    else readItems fuel [] (skipSpace s) := by
  rw [readValue.eq_3]
  split
  · next h => simp [h]
  · next h => exact (if_neg fun hhead => h _ (List.head?_eq_some_iff.mp hhead).choose_spec).symm

theorem readValue_object (fuel : Nat) (s : List Char) : readValue (fuel + 1) ('{' :: s) =
    if (skipSpace s).head? = some '}' then .ok (.obj [], (skipSpace s).tail)
    else readMembers fuel [] (skipSpace s) := by
  rw [readValue.eq_4]
  split
  · next h => simp [h]
  · next h => exact (if_neg fun hhead => h _ (List.head?_eq_some_iff.mp hhead).choose_spec).symm

/-- A value is local if its items and its members are; this is the step of the induction
    over the fuel. -/
theorem local_value (hitems : Local (readItems · []) fuel)
    (hmembers : Local (readMembers · []) fuel) :
    Local readValue (fuel + 1) := by
  intro s v r h
  rw [readValue.eq_def] at h
  simp only at h
  split at h
  · next s =>
    obtain ⟨⟨t, _⟩, htext, heq⟩ := map_eq_ok.mp h
    cases heq
    obtain ⟨cs, rfl, hends⟩ := readText_extent htext
    refine ⟨'\x22' :: cs, rfl, ⟨_, _, rfl, by decide⟩,
      .of_step (List.cons_ne_nil _ _) fun fuel rest _ _ => ?_⟩
    rw [List.cons_append, readValue.eq_2, hends]
    rfl
  · next s =>
    exact local_enclosed (by decide) rfl (fun c hc => hc.noBracket) readValue_array hitems
      ((readValue.eq_3 fuel s).trans h)
  · next s =>
    exact local_enclosed (by decide) rfl (fun c hc => hc.noBrace) readValue_object hmembers
      ((readValue.eq_4 fuel s).trans h)
  · obtain ⟨cs, rfl, ⟨c, more, rfl, hc⟩, hread⟩ := readAtom_extent h
    refine ⟨c :: more, rfl, ⟨c, more, rfl, hc.1⟩,
      .of_step (List.cons_ne_nil _ _) fun fuel rest _ hrest => ?_⟩
    rw [← hread rest hrest]
    exact readValue.eq_5 _ fuel (fun _ e => hc.2.1 (List.cons.inj e).1)
      (fun _ e => hc.2.2.1 (List.cons.inj e).1) (fun _ e => hc.2.2.2 (List.cons.inj e).1)

theorem local_items (hvalue : Local readValue fuel) (hitems : ∀ acc, Local (readItems · acc) fuel)
    (acc : List Json) : Local (readItems · acc) (fuel + 1) := by
  intro s v r h
  simp only [readItems] at h
  split at h
  · cases h
  next w u hw =>
  obtain ⟨c, rfl, hfront, hread⟩ := hvalue s w u hw
  split at h
  · next t hskip =>
    cases h
    obtain ⟨b, hb, rfl⟩ := skipSpace_eq hskip
    refine ⟨c ++ (b ++ [']']), by simp, hfront.append _,
      .of_step (by simp) fun fuel rest hfuel _ => ?_⟩
    simp only [List.length_append, List.length_cons] at hfuel
    rw [List.append_assoc, List.append_assoc, List.singleton_append,
      readItems_value hread hb (.inr rfl) (by omega), if_neg (by decide)]
  · next t hskip =>
    obtain ⟨b, hb, rfl⟩ := skipSpace_eq hskip
    obtain ⟨b', hb', ht⟩ := skipSpace_eq (s := t) rfl
    obtain ⟨cs, hcs, hmore, hyields⟩ := hitems (w :: acc) _ v r h
    refine ⟨c ++ (b ++ ',' :: (b' ++ cs)), by rw [ht, hcs]; simp, hfront.append _,
      .of_step (by simp) ?_⟩
    intro fuel rest hfuel hrest
    simp only [List.length_append, List.length_cons] at hfuel
    rw [List.append_assoc, List.append_assoc, List.cons_append, List.append_assoc,
      readItems_value hread hb (.inl rfl) (by omega), if_pos rfl, hmore.skipSpace_eq hb']
    exact hyields fuel rest (by omega) hrest
  · cases h

theorem local_members (hvalue : Local readValue fuel)
    (hmembers : ∀ acc, Local (readMembers · acc) fuel) (acc : Members) :
    Local (readMembers · acc) (fuel + 1) := by
  intro s v r h
  change readMembers (fuel + 1) acc s = .ok (v, r) at h
  rw [readMembers.eq_def] at h
  simp only at h
  split at h
  · split at h
    · cases h
    next name u hname =>
    obtain ⟨cs, rfl, hends⟩ := readText_extent hname
    split at h
    · next t hcolon =>
      obtain ⟨b₁, hb₁, rfl⟩ := skipSpace_eq hcolon
      obtain ⟨b₂, hb₂, ht⟩ := skipSpace_eq (s := t) rfl
      split at h
      · cases h
      next w u hw =>
      obtain ⟨c, hc, hfront, hread⟩ := hvalue _ w u hw
      split at h
      · next t' hskip =>
        cases h
        obtain ⟨b₃, hb₃, rfl⟩ := skipSpace_eq hskip
        refine ⟨'\x22' :: (cs ++ (b₁ ++ ':' :: (b₂ ++ (c ++ (b₃ ++ ['}']))))), by rw [ht, hc]; simp,
          ⟨_, _, rfl, by decide⟩, .of_step (List.cons_ne_nil _ _) ?_⟩
        intro fuel rest hfuel _
        simp only [List.length_append, List.length_cons] at hfuel
        have hvaluefuel : 2 * c.length ≤ fuel := by omega
        have hmember :=
          readMembers_member hends hb₁ hb₂ hfront hread hb₃ (.inr rfl) hvaluefuel acc rest
        simpa using hmember
      · next t' hskip =>
        obtain ⟨b₃, hb₃, rfl⟩ := skipSpace_eq hskip
        obtain ⟨b₄, hb₄, ht'⟩ := skipSpace_eq (s := t') rfl
        obtain ⟨ms, hms, hmore, hyields⟩ := hmembers _ _ v r h
        refine ⟨'\x22' :: (cs ++ (b₁ ++ ':' :: (b₂ ++ (c ++ (b₃ ++ ',' :: (b₄ ++ ms)))))), ?_,
          ⟨_, _, rfl, by decide⟩, .of_step (List.cons_ne_nil _ _) ?_⟩
        · rw [ht, hc, ht', hms]
          simp
        intro fuel rest hfuel hrest
        simp only [List.length_append, List.length_cons] at hfuel
        have hvaluefuel : 2 * c.length ≤ fuel := by omega
        have hmember := readMembers_member hends hb₁ hb₂ hfront hread hb₃ (.inl rfl) hvaluefuel acc
          (b₄ ++ (ms ++ rest))
        have hrestread : readMembers fuel (put name w acc) (ms ++ rest) = .ok (v, rest) :=
          hyields fuel rest (by omega) hrest
        rw [if_pos rfl, hmore.skipSpace_eq hb₄, hrestread] at hmember
        simpa using hmember
      · cases h
    · cases h
  · cases h

/-- By induction on the fuel: values, items and members are read from their own characters. -/
theorem read_local (fuel : Nat) : Local readValue fuel ∧ (∀ acc, Local (readItems · acc) fuel)
    ∧ ∀ acc, Local (readMembers · acc) fuel := by
  induction fuel with
  | zero =>
      exact ⟨fun _ _ _ h => (by cases h), fun _ _ _ _ h => (by cases h),
        fun _ _ _ _ h => (by cases h)⟩
  | succ fuel ih =>
    obtain ⟨hvalue, hitems, hmembers⟩ := ih
    exact ⟨local_value (hitems []) (hmembers []), local_items hvalue hitems,
      local_members hvalue hmembers⟩

end

end

/-! ### Fronts -/

/-- The signs and letters with which a value starts, if it does not with a digit. -/
def startSigns : List Char := ['\x22', '[', '{', '-', 'n', 't', 'f', 'N', 'I']

def CanStart (c : Char) : Prop := asciiDigit c = true ∨ c ∈ startSigns

section
variable {s r : List Char} {v : Json}

theorem readMagnitude_front {negative : Bool} {start : List Char}
    (h : readMagnitude negative start s = .ok (v, r)) :
    ∃ c more, s = c :: more ∧ asciiDigit c = true := by
  obtain ⟨w, t, hw, rfl, -⟩ := readMagnitude_extent h
  obtain ⟨c, more, rfl⟩ := List.exists_cons_of_ne_nil hw.nonempty
  exact ⟨c, _, rfl, hw.digits c List.mem_cons_self⟩

/-- What is read as an atom has a sign or a letter in front with which a value can start. -/
theorem readAtom_front (h : readAtom s = .ok (v, r)) : ∃ c more, s = c :: more ∧ CanStart c := by
  unfold readAtom at h
  split at h
  · next found hword =>
    obtain rfl := Except.ok.inj h
    obtain ⟨word, hmem, rfl⟩ := readLiteral?_eq_some hword
    simp only [literals, List.mem_cons, Prod.mk.injEq, List.not_mem_nil, or_false] at hmem
    rcases hmem with ⟨rfl, -⟩ | ⟨rfl, -⟩ | ⟨rfl, -⟩ | ⟨rfl, -⟩ | ⟨rfl, -⟩ | ⟨rfl, -⟩
    all_goals exact ⟨_, _, rfl, .inr (by decide)⟩
  · split at h
    · exact ⟨'-', _, rfl, .inr (by decide)⟩
    · obtain ⟨c, more, rfl, hc⟩ := readMagnitude_front h
      exact ⟨c, more, rfl, .inl hc⟩

theorem readValue_front {fuel : Nat} (h : readValue fuel s = .ok (v, r)) :
    ∃ c more, s = c :: more ∧ CanStart c := by
  cases fuel with
  | zero => cases h
  | succ fuel =>
    rw [readValue.eq_def] at h
    simp only at h
    split at h
    · exact ⟨_, _, rfl, .inr (by decide)⟩
    · exact ⟨_, _, rfl, .inr (by decide)⟩
    · exact ⟨_, _, rfl, .inr (by decide)⟩
    · exact readAtom_front h

/-- Only blanks come before the value of a text. -/
theorem readDocument_front (h : readDocument s = .ok v) :
    ∃ b c rest, Blank b ∧ s = b ++ c :: rest ∧ CanStart c := by
  unfold readDocument at h
  split at h
  · cases h
  next w r hread =>
  obtain ⟨c, rest, hskip, hc⟩ := readValue_front hread
  obtain ⟨b, hb, hs⟩ := skipSpace_eq hskip
  exact ⟨b, c, rest, hb, hs, hc⟩

end

end Gleaner.Json
