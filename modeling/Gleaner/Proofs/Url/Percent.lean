/-
  Gleaner/Proofs/Url/Percent.lean
  ===============================
  **Percent encoding undone.**  An encoded value has unreserved characters and percent signs
  with two hexadecimal digits only (`escaped_percentEncode`), and it stands for the text from
  which it was made (`unquote_percentEncode`).
-/
import Gleaner.Proofs.Text.Run
import Gleaner.Proofs.Text.Utf8
import Gleaner.Text.Blank
import Gleaner.Url.Parts
import Gleaner.Url.Percent

namespace Gleaner.Url

/-- Unreserved characters, and percent signs with two hexadecimal digits. -/
inductive Escaped : List Char → Prop where
  | nil : Escaped []
  | plain {c : Char} {s : List Char} (hc : isUnreserved c = true) (hs : Escaped s) :
      Escaped (c :: s)
  | byte {a b : Char} {s : List Char} (ha : Text.isHex a = true) (hb : Text.isHex b = true)
      (hs : Escaped s) :
      Escaped ('%' :: a :: b :: s)

def unquote (s : List Char) : List Char := Text.Utf8.decodeLenient (percentDecode s)

section Encoded

variable {c : Char} {s rest : List Char}

/-! ### What stands in an encoded value -/

theorem capitalHex_facts {n : Nat} (h : n < 16) : Text.hexValue? (capitalHex n) = some n
    ∧ isUnreserved (capitalHex n) = true := by
  have hall : ∀ n < 16, Text.hexValue? (capitalHex n) = some n
    ∧ isUnreserved (capitalHex n) = true := by decide
  exact hall n h

theorem isHex_capitalHex {n : Nat} (h : n < 16) : Text.isHex (capitalHex n) = true := by
  rw [Text.isHex, (capitalHex_facts h).1]
  rfl

theorem nibbles (b : UInt8) : b.toNat / 16 < 16 ∧ b.toNat % 16 < 16 := by
  have hb := b.toNat_lt
  omega

theorem Escaped.percentBytes (bytes : List UInt8) (h : Escaped rest) :
    Escaped (bytes.flatMap percentByte ++ rest) := by
  induction bytes with
  | nil => exact h
  | cons b bytes ih =>
      exact .byte (isHex_capitalHex (nibbles b).1) (isHex_capitalHex (nibbles b).2) ih

/-- An encoded text has nothing but unreserved characters and escapes in it. -/
theorem escaped_percentEncode (s : List Char) : Escaped (percentEncode isUnreserved s) := by
  induction s with
  | nil => exact .nil
  | cons c s ih =>
    rw [percentEncode, List.flatMap_cons]
    by_cases hc : isUnreserved c = true
    · rw [if_pos hc]
      exact .plain hc ih
    · rw [if_neg hc]
      exact ih.percentBytes _

/-- A character of an encoded value is no brace, mark or blank. -/
structure Harmless (c : Char) : Prop where
  brace : c ≠ '{' ∧ c ≠ '}'
  mark : c ≠ '?' ∧ c ≠ '#'
  noise : isFrontNoise c = false ∧ isLineNoise c = false
  blank : Text.isBlank c = false

instance (c : Char) : Decidable (Harmless c) :=
  decidable_of_iff ((c ≠ '{' ∧ c ≠ '}') ∧ (c ≠ '?' ∧ c ≠ '#')
      ∧ (isFrontNoise c = false ∧ isLineNoise c = false) ∧ Text.isBlank c = false)
    ⟨fun ⟨h₁, h₂, h₃, h₄⟩ => ⟨h₁, h₂, h₃, h₄⟩, fun ⟨h₁, h₂, h₃, h₄⟩ => ⟨h₁, h₂, h₃, h₄⟩⟩

theorem isUnreserved_ascii (h : isUnreserved c = true) : c.toNat < 128 := by
  have hbelow {d : Char} (hle : c ≤ d) (hd : d.toNat < 128) : c.toNat < 128 :=
    Nat.lt_of_le_of_lt hle hd
  simp only [isUnreserved, Text.asciiLetter, Text.asciiDigit, Bool.or_eq_true, Bool.and_eq_true,
    decide_eq_true_eq, beq_iff_eq] at h
  obtain ((((((⟨-, h⟩ | ⟨-, h⟩) | ⟨-, h⟩) | rfl) | rfl) | rfl) | rfl) := h
  · exact hbelow h (by decide)
  · exact hbelow h (by decide)
  · exact hbelow h (by decide)
  all_goals decide

theorem isUnreserved_of_isHex (h : Text.isHex c = true) : isUnreserved c = true := by
  have hletter {d : Char} (hle : c ≤ d) (hd : d.toNat < 128) :
      Text.isHex c = true → isUnreserved c = true :=
    Text.forall_ascii (p := fun c => Text.isHex c = true → isUnreserved c = true) (by decide)
      (Nat.lt_of_le_of_lt hle hd)
  have hcases := h
  unfold Text.isHex Text.hexValue? Text.asciiDigit at hcases
  split_ifs at hcases with hdigit hsmall hcapital
  · exact hletter (of_decide_eq_true (Bool.and_eq_true _ _ ▸ hdigit).2) (by decide) h
  · exact hletter (of_decide_eq_true (Bool.and_eq_true _ _ ▸ hsmall).2) (by decide) h
  · exact hletter (of_decide_eq_true (Bool.and_eq_true _ _ ▸ hcapital).2) (by decide) h
  · cases hcases

theorem harmless_of_isUnreserved (h : isUnreserved c = true) : Harmless c :=
  Text.forall_ascii (p := fun c => isUnreserved c = true →
    Harmless c) (by decide) (isUnreserved_ascii h) h

theorem Escaped.harmless (h : Escaped s) : ∀ c ∈ s, Harmless c := by
  induction h with
  | nil => exact fun c hc => nomatch hc
  | plain hc _ ih => exact List.forall_mem_cons.mpr ⟨harmless_of_isUnreserved hc, ih⟩
  | byte ha hb _ ih =>
    have hhigh := harmless_of_isUnreserved (isUnreserved_of_isHex ha)
    have hlow := harmless_of_isUnreserved (isUnreserved_of_isHex hb)
    rw [List.forall_mem_cons, List.forall_mem_cons, List.forall_mem_cons]
    exact ⟨by decide, hhigh, hlow, ih⟩

/-! ### What an encoded value stands for -/

theorem percentDecode_percentByte (b : UInt8) (rest : List Char) :
    percentDecode (percentByte b ++ rest) = b :: percentDecode rest := by
  obtain ⟨hhigh, hlow⟩ := nibbles b
  have hvalue : Text.hexNumber [capitalHex (b.toNat / 16), capitalHex (b.toNat % 16)]
      = b.toNat := by
    simp [Text.hexNumber, (capitalHex_facts hhigh).1, (capitalHex_facts hlow).1]
    omega
  rw [percentByte, List.cons_append, List.cons_append, List.cons_append, List.nil_append,
    percentDecode, if_pos (by rw [isHex_capitalHex hhigh, isHex_capitalHex hlow]; rfl), hvalue,
    UInt8.ofNat_toNat]

theorem percentDecode_percentBytes (bytes : List UInt8) (rest : List Char) :
    percentDecode (bytes.flatMap percentByte ++ rest) = bytes ++ percentDecode rest := by
  induction bytes with
  | nil => rfl
  | cons b bytes ih =>
    rw [List.flatMap_cons, List.append_assoc, percentDecode_percentByte, ih]
    rfl

theorem percentDecode_of_ne (h : c ≠ '%') (rest : List Char) :
    percentDecode (c :: rest) = String.utf8EncodeChar c ++ percentDecode rest := by
  rw [percentDecode]
  exact fun _ _ _ hc => absurd hc h

/-- Decoding undoes encoding, down to the bytes. -/
theorem percentDecode_percentEncode (s : List Char) :
    percentDecode (percentEncode isUnreserved s) = Text.Utf8.encode s := by
  induction s with
  | nil => rfl
  | cons c s ih =>
    rw [percentEncode, List.flatMap_cons, Text.Utf8.encode, List.flatMap_cons]
    by_cases hc : isUnreserved c = true
    · have hne : c ≠ '%' := by
        rintro rfl
        exact absurd hc (by decide)
      rw [if_pos hc, List.cons_append, List.nil_append, percentDecode_of_ne hne]
      exact congrArg _ ih
    · rw [if_neg hc, percentChar, percentDecode_percentBytes]
      exact congrArg _ ih

/-- An encoded value stands for the text from which it was made. -/
theorem unquote_percentEncode (s : List Char) : unquote (percentEncode isUnreserved s) = s := by
  rw [unquote, percentDecode_percentEncode, Text.Utf8.decodeLenient_encode]

end Encoded

end Gleaner.Url
