/-
  Gleaner/Proofs/Json/Bytes.lean
  ==============================
  **Json in the bytes of UTF-8.**  The bytes of a text hold no half of a surrogate pair, and
  an object has no zero byte among the first two, where a wider encoding would have one, so
  the bytes of an object are read as its text (`textOfBytes_encode`).
-/
import Gleaner.Json.Bytes
import Gleaner.Proofs.Text.Utf8

namespace Gleaner.Json

open Text.Utf8 (encode)

/-! ### Halves of pairs -/

section
variable {a : UInt8} {rest : List UInt8}

/-- A byte stays unless it starts half of a pair. -/
theorem withoutHalfPairs_cons (h : a.toNat = 0xED → ∀ b ∈ rest.head?, b.toNat < 0xA0) :
    withoutHalfPairs (a :: rest) = a :: withoutHalfPairs rest := by
  match rest, h with
  | [], _ => rfl
  | [_], _ => rfl
  | b :: c :: rest, h =>
    rw [withoutHalfPairs, if_neg]
    simp only [Bool.and_eq_true, beq_iff_eq, decide_eq_true_eq, UInt8.le_iff_toNat_le,
      ← UInt8.toNat_inj]
    rintro ⟨⟨⟨hstart, hhalf⟩, -⟩, -⟩
    exact absurd hhalf (Nat.not_le.mpr (h hstart b rfl))

theorem withoutHalfPairs_byte {n : Nat} (h : n < 256) (hn : n ≠ 0xED) :
    withoutHalfPairs (UInt8.ofNat n :: rest) = UInt8.ofNat n :: withoutHalfPairs rest := by
  refine withoutHalfPairs_cons fun hstart => absurd hstart ?_
  rwa [Text.Utf8.toNat_byte h]

end

/-- A whole character has no half of a pair in its bytes. -/
theorem withoutHalfPairs_encodeChar (c : Char) (rest : List UInt8) :
    withoutHalfPairs (String.utf8EncodeChar c ++ rest)
      = String.utf8EncodeChar c ++ withoutHalfPairs rest := by
  have hrange : c.val.toNat < 0xD800 ∨ 0xDFFF < c.val.toNat ∧ c.val.toNat < 0x110000 := c.valid
  have htail (n : Nat) (rest : List UInt8) : withoutHalfPairs (UInt8.ofNat (n % 64 + 128) :: rest)
      = UInt8.ofNat (n % 64 + 128) :: withoutHalfPairs rest :=
        withoutHalfPairs_byte (by omega) (by omega)
  unfold String.utf8EncodeChar
  generalize c.val.toNat = n at hrange
  dsimp only
  split_ifs with hone htwo hthree
  · exact withoutHalfPairs_byte (by omega) (by omega)
  · simp only [List.cons_append, List.nil_append]
    rw [withoutHalfPairs_byte (by omega) (by omega), htail]
  · simp only [List.cons_append, List.nil_append]
    rw [withoutHalfPairs_cons, htail, htail]
    -- only the code points of halves have a second byte as high
    intro hstart b hb
    obtain rfl := Option.some.inj hb
    rw [Text.Utf8.toNat_byte (by omega)] at hstart ⊢
    omega
  · simp only [List.cons_append, List.nil_append]
    rw [withoutHalfPairs_byte (by omega) (by omega), htail, htail, htail]

theorem withoutHalfPairs_encode (s : List Char) : withoutHalfPairs (encode s) = encode s := by
  induction s with
  | nil => rfl
  | cons c s ih =>
    rw [encode, List.flatMap_cons, ← encode, withoutHalfPairs_encodeChar, ih]

/-! ### The encoding -/

/-- A brace and a byte that is not zero are the start of UTF-8. -/
theorem charsetOf_brace {b : UInt8} (hb : b ≠ 0) (rest : List UInt8) :
    charsetOf (0x7b :: b :: rest) = (.utf8, 0x7b :: b :: rest) := by
  have hzero : ¬ (b == 0) = true := by simpa using hb
  match rest with
  | [] => exact congrArg (·, [0x7b, b]) (if_neg hzero)
  | [_] => rfl
  | _ :: _ :: _ => exact if_neg hzero

theorem textOfBytes_utf8 {bytes : List UInt8} {s : List Char}
    (h : charsetOf bytes = (.utf8, encode s)) :
    textOfBytes bytes = .ok s := by
  rw [textOfBytes, h]
  dsimp only
  rw [withoutHalfPairs_encode, Text.Utf8.decode_encode]
  rfl

/-- A text that opens with a brace, and has no zero after it, is read from its bytes. -/
theorem textOfBytes_encode {d : Char} (hd : d ≠ '\x00') (s : List Char) :
    textOfBytes (encode ('{' :: d :: s)) = .ok ('{' :: d :: s) := by
  obtain ⟨b, rest, hrest, hb⟩ := Text.Utf8.encode_front_ne_zero hd s
  have hbytes : encode ('{' :: d :: s) = 0x7b :: b :: rest := by
    rw [Text.Utf8.encode_ascii (by decide), hrest]
    rfl
  exact textOfBytes_utf8 (by rw [hbytes, charsetOf_brace hb])

/-- The mark of the order of bytes is no part of the text. -/
theorem textOfBytes_mark (s : List Char) : textOfBytes (encode ('\uFEFF' :: s)) = .ok s :=
  textOfBytes_utf8 rfl

/-- The characters with the bytes of the mark otherwise are, if others follow them. -/
theorem textOfBytes_markLike {c : Char} (hc : c = '\uFEFB' ∨ c = '\uFFFB' ∨ c = '\uFFFF')
    {s : List Char} (hs : s ≠ []) : textOfBytes (encode (c :: s)) = .ok (c :: s) := by
  obtain ⟨d, s, rfl⟩ := List.exists_cons_of_ne_nil hs
  obtain ⟨b, more, hbytes, -⟩ := Text.Utf8.front_encode d s
  have hsplit : encode (c :: d :: s) = String.utf8EncodeChar c ++ (b :: (more ++ encode s)) := by
    rw [← hbytes, encode, List.flatMap_cons]
    rfl
  refine textOfBytes_utf8 ?_
  rw [hsplit]
  rcases hc with rfl | rfl | rfl <;> rfl

end Gleaner.Json
