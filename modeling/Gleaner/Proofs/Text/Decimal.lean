/-
  Gleaner/Proofs/Text/Decimal.lean
  ================================
  **Whole numbers in decimal.**  The digits in which a whole number is written give the
  number again.  A number with no more digits than the reader takes is short (`ShortInt`);
  what the reader has taken is short, and it takes every short number (`parseInt?_toString`).
-/
import Gleaner.Proofs.Text.Trim
import Gleaner.Text.Digits

namespace Gleaner.Text

/-! ### Digits -/

theorem asciiDigit_of_isDigit {c : Char} (h : c.isDigit = true) : asciiDigit c = true := by
  simpa [asciiDigit, Char.isDigit, Char.le_def] using h

/-- What holds of the ten digits one by one holds of every digit. -/
theorem forall_digit {p : Char → Prop}
    (hall : ∀ n < 128, asciiDigit (Char.ofNat n) = true → p (Char.ofNat n)) {c : Char}
    (h : asciiDigit c = true) : p c := by
  refine forall_ascii (p := fun c => asciiDigit c = true → p c) hall ?_ h
  simp only [asciiDigit, Bool.and_eq_true, decide_eq_true_eq] at h
  exact Nat.lt_of_le_of_lt h.2 (by decide)

theorem asciiDigitValue_lt {c : Char} (h : asciiDigit c = true) : asciiDigitValue c < 10 :=
  forall_digit (p := fun c => asciiDigitValue c < 10) (by decide) h

theorem decimalValue_eq_ofDigitChars (s : List Char) :
    decimalValue s = Nat.ofDigitChars 10 s 0 := by
  rw [Nat.ofDigitChars_eq_foldl]
  rfl

/-- Digits write less than a power of ten with as many zeros. -/
theorem foldl_lt_pow {ds : List Nat} (h : ∀ d ∈ ds, d < 10) :
    ds.foldl (fun n d => 10 * n + d) 0 < Nat.pow 10 ds.length := by
  -- the bound holds from any number on that the digits before have written
  have hall : ∀ n k, n < Nat.pow 10 k →
      ds.foldl (fun n d => 10 * n + d) n < Nat.pow 10 (k + ds.length) := by
    induction ds with
    | nil => intro n k hn; simpa using hn
    | cons d ds ih =>
      intro n k hn
      have hd := h d List.mem_cons_self
      have hstep : 10 * n + d < Nat.pow 10 k * 10 := by omega
      have hmore := ih (fun e he => h e (List.mem_cons_of_mem d he)) _ (k + 1) hstep
      rwa [List.foldl_cons, List.length_cons, Nat.add_comm ds.length 1, ← Nat.add_assoc]
  simpa using hall 0 0 (by decide)

theorem decimalValue_lt_pow {s : List Char} (h : ∀ c ∈ s, asciiDigit c = true) :
    decimalValue s < Nat.pow 10 s.length := by
  have hfold : decimalValue s = (s.map asciiDigitValue).foldl (fun n d => 10 * n + d) 0 := by
    rw [decimalValue, List.foldl_map]
  have hdigits : ∀ d ∈ s.map asciiDigitValue, d < 10 := by
    intro d hd
    obtain ⟨c, hc, rfl⟩ := List.mem_map.mp hd
    exact asciiDigitValue_lt (h c hc)
  have hlt := foldl_lt_pow hdigits
  rwa [List.length_map, ← hfold] at hlt

/-! ### Numbers with few digits -/

/-- A whole number that is written with few enough digits to be read again. -/
def ShortInt (n : Int) : Prop := (Nat.toDigits 10 n.natAbs).length ≤ maxDigits

instance (n : Int) : Decidable (ShortInt n) :=
  inferInstanceAs (Decidable ((Nat.toDigits 10 n.natAbs).length ≤ maxDigits))

theorem shortInt_neg {n : Int} (h : ShortInt n) : ShortInt (-n) := by
  rw [ShortInt, Int.natAbs_neg]
  exact h

theorem shortInt_iff {n : Int} : ShortInt n ↔ n.natAbs < Nat.pow 10 maxDigits := by
  have hpos : 0 < maxDigits := by decide
  unfold ShortInt
  generalize maxDigits = limit at hpos ⊢
  exact Nat.length_toDigits_le_iff (by decide) hpos

theorem shortInt_of_lt_pow {n k : Nat} (h : n < Nat.pow 10 k) (hk : k ≤ maxDigits) :
    ShortInt n := by
  rw [shortInt_iff, Int.natAbs_natCast]
  generalize maxDigits = limit at hk ⊢
  exact Nat.lt_of_lt_of_le h (Nat.pow_le_pow_right (by decide) hk)

theorem digitValue?_lt {c : Char} {d : Nat} (h : digitValue? c = some d) : d < 10 := by
  obtain ⟨z, hz, rfl⟩ := Option.map_eq_some_iff.mp h
  have hrange := List.find?_some hz
  simp only [Bool.and_eq_true, decide_eq_true_eq] at hrange
  omega

/-- The values of digits are below ten, in any script. -/
theorem digitRun?_lt {s : List Char} {ds : List Nat} (h : digitRun? s = some ds) :
    ∀ d ∈ ds, d < 10 := by
  fun_induction digitRun? s generalizing ds with
  | case1 => cases h
  | case2 => cases h
  | case3 c d hd =>
    obtain rfl := Option.some.inj h
    simpa using digitValue?_lt hd
  | case4 c d s hd ih =>
    obtain ⟨more, hmore, rfl⟩ := Option.map_eq_some_iff.mp h
    exact List.forall_mem_cons.mpr ⟨digitValue?_lt hd, ih hmore⟩
  | case5 c d e s _ hd ih =>
    obtain ⟨more, hmore, rfl⟩ := Option.map_eq_some_iff.mp h
    exact List.forall_mem_cons.mpr ⟨digitValue?_lt hd, ih hmore⟩

/-- A number that is read is short. -/
theorem parseInt_short {s : List Char} {n : Int} (h : parseInt s = .ok n) : ShortInt n := by
  unfold parseInt at h
  dsimp only at h
  split at h
  · cases h
  · next ds hrun =>
    split at h
    · cases h
    · next hfew =>
      have hshort := shortInt_of_lt_pow (foldl_lt_pow (digitRun?_lt hrun)) (Nat.le_of_not_lt hfew)
      obtain rfl := Except.ok.inj h
      exact iteInduction (motive := ShortInt) (fun _ => shortInt_neg hshort) (fun _ => hshort)

theorem parseInt?_short {s : String} {n : Int} (h : parseInt? s = some n) : ShortInt n := by
  unfold parseInt? at h
  cases hread : parseInt s.toList with
  | error => simp [hread, Except.toOption] at h
  | ok m =>
    rw [hread] at h
    obtain rfl := Option.some.inj h
    exact parseInt_short hread

/-! ### Writing -/

structure Digits (ds : List Char) : Prop where
  nonempty : ds ≠ []
  digits : ∀ c ∈ ds, asciiDigit c = true

/-- Digits as a whole number is written: a zero alone, or a front other than zero. -/
structure Whole (w : List Char) : Prop where
  digits : ∀ c ∈ w, asciiDigit c = true
  front : w = ['0'] ∨ ∃ c more, w = c :: more ∧ c ≠ '0'

theorem Whole.nonempty {w : List Char} (h : Whole w) : w ≠ [] := by
  rcases h.front with rfl | ⟨c, more, rfl, -⟩ <;> exact List.cons_ne_nil _ _

section
variable (n : Nat)

theorem toDigits_digits : ∀ c ∈ Nat.toDigits 10 n, asciiDigit c = true := fun _ hc =>
  asciiDigit_of_isDigit (Nat.isDigit_of_mem_toDigits (by decide) (by decide) hc)

theorem decimalValue_toDigits : decimalValue (Nat.toDigits 10 n) = n := by
  rw [decimalValue_eq_ofDigitChars, Nat.ofDigitChars_ten_toDigits]

/-- A number starts with a zero only if it is zero. -/
theorem toDigits_front (hpos : 0 < n) : ∃ c more, Nat.toDigits 10 n = c :: more ∧ c ≠ '0' := by
  induction n using Nat.strongRecOn with
  | ind n ih =>
    by_cases hsmall : n < 10
    · refine ⟨n.digitChar, [], Nat.toDigits_of_lt_base hsmall, ?_⟩
      have hall : ∀ n < 10, 0 < n → n.digitChar ≠ '0' := by decide
      exact hall n hsmall hpos
    · obtain ⟨c, more, hfront, hne⟩ := ih (n / 10) (by omega) (by omega)
      exact ⟨c, more ++ [(n % 10).digitChar], by
        rw [Nat.toDigits_of_base_le (by decide) (by omega), hfront, List.cons_append], hne⟩

theorem whole_toDigits : Whole (Nat.toDigits 10 n) where
  digits := toDigits_digits n
  front := by
    rcases Nat.eq_zero_or_pos n with rfl | hpos
    · exact .inl (Nat.toDigits_zero 10)
    · exact .inr (toDigits_front n hpos)

end

/-! ### Reading -/

theorem digitValue?_digit {c : Char} (h : asciiDigit c = true) :
    digitValue? c = some (asciiDigitValue c) :=
  forall_digit (p := fun c => digitValue? c = some (asciiDigitValue c)) (by decide) h

section
variable {ds : List Char} (h : Digits ds)
include h

/-- A run of ASCII digits is read digit by digit. -/
theorem digitRun?_digits : digitRun? ds = some (ds.map asciiDigitValue) := by
  obtain ⟨hne, h⟩ := h
  fun_induction digitRun? ds with
  | case1 => exact absurd rfl hne
  | case2 c s hnone =>
    rw [digitValue?_digit (h c List.mem_cons_self)] at hnone
    cases hnone
  | case3 c d hd =>
    rw [digitValue?_digit (h c List.mem_cons_self)] at hd
    obtain rfl := Option.some.inj hd
    rfl
  | case4 c d s hd ih => exact absurd (h '_' (by simp)) (by decide)
  | case5 c d e s _ hd ih =>
    rw [digitValue?_digit (h c List.mem_cons_self)] at hd
    obtain rfl := Option.some.inj hd
    rw [ih (List.cons_ne_nil e s) fun e' he => h e' (List.mem_cons_of_mem c he)]
    rfl

theorem not_blank_digits : ∀ c ∈ ds, isNumberBlank c = false := fun c hc =>
  forall_digit (p := fun c => isNumberBlank c = false) (by decide) (h.digits c hc)

/-- A run of digits is read as the number it writes, unless it is too long. -/
theorem parseInt_digits : parseInt ds =
    if maxDigits < ds.length then .error (.tooLong ds.length) else .ok (decimalValue ds) := by
  have hrun := digitRun?_digits h
  have hvalue : decimalValue ds = (ds.map asciiDigitValue).foldl (fun n d => 10 * n + d) 0 :=
    List.foldl_map.symm
  unfold parseInt
  rw [trimBy_of_none (not_blank_digits h), hvalue]
  obtain ⟨c, s, rfl⟩ := List.exists_cons_of_ne_nil h.nonempty
  have hc : c ≠ '-' ∧ c ≠ '+' :=
    forall_digit (p := fun c => c ≠ '-' ∧ c ≠ '+') (by decide) (h.digits c List.mem_cons_self)
  simp [hc, hrun]

theorem parseInt_minus : parseInt ('-' :: ds) =
    if maxDigits < ds.length then .error (.tooLong ds.length) else .ok (-decimalValue ds) := by
  have hrun := digitRun?_digits h
  have hvalue : decimalValue ds = (ds.map asciiDigitValue).foldl (fun n d => 10 * n + d) 0 :=
    List.foldl_map.symm
  have hblank : ∀ c ∈ '-' :: ds, isNumberBlank c = false :=
    List.forall_mem_cons.mpr ⟨by decide, not_blank_digits h⟩
  unfold parseInt
  rw [trimBy_of_none hblank, hvalue]
  simp only [hrun, List.length_map, if_true]

end

/-- A number is read from its text exactly if it is short. -/
theorem parseInt?_toString (n : Int) :
    parseInt? (toString n) = if ShortInt n then some n else none := by
  have hall : ∀ m : Nat, Digits (Nat.toDigits 10 m) := fun m =>
    ⟨(whole_toDigits m).nonempty, (whole_toDigits m).digits⟩
  unfold parseInt? ShortInt
  simp only [← Nat.not_lt, ite_not]
  cases n with
  | ofNat m =>
    have htext : (toString (Int.ofNat m)).toList = Nat.toDigits 10 m := by simp [Int.repr]
    rw [htext, parseInt_digits (hall m), decimalValue_toDigits, Int.natAbs_ofNat']
    split <;> rfl
  | negSucc m =>
    have htext : (toString (Int.negSucc m)).toList = '-' :: Nat.toDigits 10 (m + 1) := by
      simp [Int.repr]
    rw [htext, parseInt_minus (hall (m + 1)), decimalValue_toDigits, Int.natAbs_negSucc]
    split <;> rfl

end Gleaner.Text
