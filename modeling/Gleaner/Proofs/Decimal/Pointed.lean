/-
  Gleaner/Proofs/Decimal/Pointed.lean
  ===================================
  **Numbers with a point as text.**  The text of a finite number is a whole number and a
  tail, which is a fraction, an exponent or both (`magnitudeText_parts`): so it is never
  taken for the text of a whole number.
-/
import Mathlib.Data.List.DropRight
import Gleaner.Proofs.Text.Decimal
import Gleaner.Decimal.Shortest

namespace Gleaner.Binary64

open Text (asciiDigit Digits Whole)

/-- What follows the whole part of a number with a point, with the digits of its fraction
    and the sign and digits of its exponent. -/
inductive Tail : List Char → List Char → Bool → List Char → Prop
  | fraction {ds : List Char} (hds : Digits ds) : Tail ('.' :: ds) ds false []
  | exponent {es : List Char} (negative : Bool) (hes : Digits es) :
      Tail ('e' :: (if negative then '-' else '+') :: es) [] negative es
  | both {ds es : List Char} (hds : Digits ds) (negative : Bool) (hes : Digits es) :
      Tail ('.' :: (ds ++ 'e' :: (if negative then '-' else '+') :: es)) ds negative es

/-! ### The digits -/

/-- The nearest point of a grid is not zero. -/
theorem gridPoint?_pos {lo n hi d : Nat} {closed : Bool} {k : Int} {x : Nat}
    (h : gridPoint? lo n hi d closed k = some x) : 0 < x := by
  unfold gridPoint? at h
  simp only at h
  split at h
  · cases h
  · next hinside _ =>
    rw [Bool.and_eq_true, decide_eq_true_eq] at hinside
    exact Option.some.inj h ▸ hinside.2
  · exact Option.some.inj h ▸ Nat.succ_pos _
  · next hinside _ =>
    rw [Bool.and_eq_true, decide_eq_true_eq] at hinside
    have hboth {c : Prop} [Decidable c] {a b : Nat} (ha : 0 < a) (hb : 0 < b) :
        0 < if c then a else b :=
      iteInduction (fun _ => ha) (fun _ => hb)
    rw [← Option.some.inj h]
    exact hboth hinside.2 (hboth (Nat.succ_pos _) (hboth hinside.2 (Nat.succ_pos _)))

theorem searchGrid_pos (lo n hi d : Nat) (closed : Bool) (p : Int) (fuel count : Nat) :
    0 < (searchGrid lo n hi d closed p fuel count).1
      ∨ (searchGrid lo n hi d closed p fuel count).2 = 0 := by
  induction fuel generalizing count with
  | zero => exact .inr rfl
  | succ fuel ih =>
    rw [searchGrid]
    split
    · next x hx => exact .inl (gridPoint?_pos hx)
    · exact ih (count + 1)

/-- Either there are digits to write, or the number is written as a plain zero. -/
theorem shortest_pos (m : Nat) (e : Int) : 0 < (shortest m e).1 ∨ (shortest m e).2 = 0 :=
  searchGrid_pos _ _ _ _ _ _ _ _

theorem dropZeros_initial (s : List Char) : dropZeros s <+: s := List.rdropWhile_prefix _ s

theorem dropZeros_front {c : Char} (hc : c ≠ '0') (s : List Char) :
    ∃ t, dropZeros (c :: s) = c :: t := by
  have hfront : dropZeros (c :: s) ≠ [] := by
    intro h
    have hall := List.rdropWhile_eq_nil_iff.mp h c List.mem_cons_self
    exact hc (by simpa using hall)
  obtain ⟨d, t, hdrop⟩ := List.exists_cons_of_ne_nil hfront
  obtain ⟨rest, hrest⟩ := dropZeros_initial (c :: s)
  rw [hdrop, List.cons_append] at hrest
  exact ⟨t, by rw [hdrop, (List.cons.inj hrest).1]⟩

/-! ### The text -/

theorem digits_zeros (n : Nat) : ∀ c ∈ List.replicate n '0', asciiDigit c = true := by
  intro c hc
  obtain ⟨-, rfl⟩ := List.mem_replicate.mp hc
  rfl

theorem digits_append {s t : List Char} (hs : ∀ c ∈ s, asciiDigit c = true)
    (ht : ∀ c ∈ t, asciiDigit c = true) :
    ∀ c ∈ s ++ t, asciiDigit c = true :=
  fun c hc => (List.mem_append.mp hc).elim (hs c) (ht c)

/-- The digits of a number that is not zero, or none for zero. -/
structure Significant (ds : List Char) (p : Int) : Prop where
  digits : ∀ c ∈ ds, asciiDigit c = true
  front : (ds = [] ∧ p = 0) ∨ ∃ c more, ds = c :: more ∧ c ≠ '0'

/-- A number that is not written in powers of ten has a whole part and a tail. -/
theorem positional_parts {ds : List Char} {p : Int} (h : Significant ds p) :
    ∃ w t fraction negative exponent, positional ds p = w ++ t ∧ Whole w
      ∧ Tail t fraction negative exponent := by
  unfold positional
  split
  · next hneg =>
    rcases h.front with ⟨-, rfl⟩ | ⟨c, more, hds, -⟩
    · exact absurd hneg (by decide)
    have hfraction : Digits (List.replicate (-p - 1).toNat '0' ++ ds) :=
      ⟨by simp [hds], digits_append (digits_zeros _) h.digits⟩
    exact ⟨['0'], _, _, _, _, rfl, ⟨by simp [asciiDigit], .inl rfl⟩, .fraction hfraction⟩
  · have htail :
      Digits (if (ds.drop (p.toNat + 1)).isEmpty then ['0'] else ds.drop (p.toNat + 1)) := by
      split
      · exact ⟨List.cons_ne_nil _ _, by simp [asciiDigit]⟩
      · next hmore => exact ⟨by simpa using hmore, fun c hc => h.digits c (List.mem_of_mem_drop hc)⟩
    refine ⟨_, _, _, _, _, rfl, ⟨?_, ?_⟩, .fraction htail⟩
    · exact digits_append (fun c hc => h.digits c (List.mem_of_mem_take hc)) (digits_zeros _)
    · rcases h.front with ⟨rfl, rfl⟩ | ⟨c, more, rfl, hne⟩
      · exact .inl rfl
      · exact .inr ⟨c, _, rfl, hne⟩

/-- So has one that is. -/
theorem scientific_parts {ds : List Char} {p : Int} (h : ∀ c ∈ ds, asciiDigit c = true)
    (hfront : ∃ c more, ds = c :: more ∧ c ≠ '0') :
    ∃ w t fraction negative exponent, scientific ds p = w ++ t ∧ Whole w
      ∧ Tail t fraction negative exponent := by
  obtain ⟨c, more, rfl, hne⟩ := hfront
  have hwhole : Whole [c] := ⟨by simpa using h c List.mem_cons_self, .inr ⟨c, [], rfl, hne⟩⟩
  have hsize := Text.toDigits_digits p.natAbs
  have hexponent : Digits (if (digitsOf p.natAbs).length < 2 then '0'
      :: digitsOf p.natAbs else digitsOf p.natAbs) := by
    split
    · exact ⟨List.cons_ne_nil _ _, List.forall_mem_cons.mpr ⟨rfl, hsize⟩⟩
    · exact ⟨Nat.toDigits_ne_nil, hsize⟩
  cases more with
  | nil =>
      exact ⟨[c], _, [], decide (p < 0), _, by simp [scientific], hwhole, .exponent _ hexponent⟩
  | cons d more =>
    have hfraction : Digits (d :: more) :=
      ⟨List.cons_ne_nil _ _, fun e he => h e (List.mem_cons_of_mem c he)⟩
    exact ⟨[c], _, d :: more, decide (p < 0), _, by simp [scientific], hwhole,
      .both hfraction _ hexponent⟩

/-- Every magnitude is written with a whole part and a tail that a reader of numbers takes.
    -/
theorem magnitudeText_parts (m : Nat) (e : Int) :
    ∃ w t fraction negative exponent, magnitudeText m e = w ++ t ∧ Whole w
      ∧ Tail t fraction negative exponent := by
  unfold magnitudeText
  split
  · exact ⟨['0'], ['.', '0'], _, _, _, rfl, ⟨by simp [asciiDigit], .inl rfl⟩,
      .fraction ⟨List.cons_ne_nil _ _, by simp [asciiDigit]⟩⟩
  · have hpos := shortest_pos m e
    generalize shortest m e = best at hpos ⊢
    obtain ⟨x, k⟩ := best
    have hdigits := Text.toDigits_digits x
    have hkept : ∀ c ∈ dropZeros (digitsOf x), asciiDigit c = true := fun c hc =>
      hdigits c ((dropZeros_initial _).subset hc)
    -- without digits the number is written in front of the point, as a zero
    rcases Nat.eq_zero_or_pos x with rfl | hx
    · obtain rfl : k = 0 := hpos.resolve_left (Nat.lt_irrefl 0)
      exact positional_parts ⟨hkept, .inl ⟨rfl, rfl⟩⟩
    · obtain ⟨c, s, hfront, hne⟩ := Text.toDigits_front x hx
      have hsignificant : ∃ c more, dropZeros (digitsOf x) = c :: more ∧ c ≠ '0' := by
        obtain ⟨t, hkeep⟩ := dropZeros_front hne s
        exact ⟨c, t, by rw [digitsOf, hfront, hkeep], hne⟩
      simp only
      split
      · exact positional_parts ⟨hkept, .inr hsignificant⟩
      · exact scientific_parts hkept hsignificant

end Gleaner.Binary64
