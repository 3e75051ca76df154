/-
  Gleaner/Proofs/Text/Utf8.lean
  =============================
  **UTF-8 read back.**  At the front of the bytes of a character stands this character, so
  the bytes of a text give the text again, whether flaws are borne with or not
  (`decodeLenient_encode`, `decode_encode`).
-/
import Gleaner.Text.Utf8
import Mathlib.Tactic.Common

namespace Gleaner.Text.Utf8

/-! ### Bytes as numbers -/

section Bytes

variable {b c : UInt8} {n : Nat}

theorem toNat_byte (h : n < 256) : (UInt8.ofNat n).toNat = n := by
  rw [UInt8.toNat_ofNat']
  exact Nat.mod_eq_of_lt h

theorem isTail_iff : isTail b = true ↔ 128 ≤ b.toNat ∧ b.toNat ≤ 191 := by
  simp [isTail, UInt8.le_iff_toNat_le]

theorem isTail_byte (n : Nat) : isTail (UInt8.ofNat (n % 64 + 128)) = true := by
  rw [isTail_iff, toNat_byte (by omega)]
  omega

theorem tailBits_byte (n : Nat) : tailBits (UInt8.ofNat (n % 64 + 128)) = n % 64 := by
  rw [tailBits, toNat_byte (by omega)]
  omega

/-- A byte may follow a start byte unless it would write a character with too many bytes, a
    surrogate or a number beyond the characters. -/
theorem fitsSecond_of_tail (hc : isTail c = true) (hlong : b.toNat = 0xE0 → 0xA0 ≤ c.toNat)
    (hsurrogate : b.toNat = 0xED → c.toNat ≤ 0x9F) (hlong' : b.toNat = 0xF0 → 0x90 ≤ c.toNat)
    (hbeyond : b.toNat = 0xF4 → c.toNat ≤ 0x8F) : fitsSecond b c = true := by
  rw [isTail_iff] at hc
  unfold fitsSecond secondRange
  simp only [beq_iff_eq, ← UInt8.toNat_inj]
  split_ifs with h h h h <;> simp [UInt8.le_iff_toNat_le] at h ⊢ <;> omega

end Bytes

/-! ### What stands at the front -/

section Front

variable {b c d e : UInt8} (rest : List UInt8)

theorem front_one (hb : b.toNat < 0x80) : front b rest = .char (Char.ofNat b.toNat) 1 := by
  unfold front
  rw [if_pos (UInt8.lt_iff_toNat_lt.mpr hb)]

theorem front_two (hb : 0xC2 ≤ b.toNat) (hb' : b.toNat < 0xE0) (hc : isTail c = true) :
    front b (c :: rest) = .char (Char.ofNat (b.toNat % 32 * 64 + tailBits c)) 2 := by
  unfold front
  simp only [UInt8.lt_iff_toNat_lt, UInt8.reduceToNat, Bool.or_eq_true, decide_eq_true_eq]
  rw [if_neg (by omega), if_neg (by omega), if_pos hb', if_pos hc]

theorem front_three (hb : 0xE0 ≤ b.toNat) (hb' : b.toNat < 0xF0) (hc : fitsSecond b c = true)
    (hd : isTail d = true) :
    front b (c :: d :: rest)
      = .char (Char.ofNat (b.toNat % 16 * 4096 + tailBits c * 64 + tailBits d)) 3 := by
  unfold front
  simp only [UInt8.lt_iff_toNat_lt, UInt8.reduceToNat, Bool.or_eq_true, decide_eq_true_eq]
  rw [if_neg (by omega), if_neg (by omega), if_neg (by omega), if_pos hb', if_neg (by simp [hc]),
    if_neg (by simp [hd])]

theorem front_four (hb : 0xF0 ≤ b.toNat) (hb' : b.toNat ≤ 0xF4) (hc : fitsSecond b c = true)
    (hd : isTail d = true) (he : isTail e = true) :
    front b (c :: d :: e :: rest) = .char
      (Char.ofNat (b.toNat % 8 * 262144 + tailBits c * 4096 + tailBits d * 64 + tailBits e)) 4 := by
  unfold front
  simp only [UInt8.lt_iff_toNat_lt, UInt8.reduceToNat, Bool.or_eq_true, decide_eq_true_eq]
  rw [if_neg (by omega), if_neg (by omega), if_neg (by omega), if_neg (by omega),
    if_neg (by simp [hc]), if_neg (by simp [hd]), if_neg (by simp [he])]

end Front

/-! ### The bytes of a character -/

/-- The bytes are those of the character, whatever follows them. -/
def Spells (bytes : List UInt8) (c : Char) : Prop :=
  ∃ b more, bytes = b :: more ∧ ∀ rest, front b (more ++ rest) = .char c (more.length + 1)

section Spells

variable {n : Nat}

theorem spells_one (h : n ≤ 0x7f) : Spells [UInt8.ofNat n] (Char.ofNat n) := by
  have hb : (UInt8.ofNat n).toNat = n := toNat_byte (by omega)
  refine ⟨_, _, rfl, fun rest => ?_⟩
  rw [List.nil_append, front_one _ (by omega), hb]
  rfl

theorem spells_two (h : 0x7f < n) (h' : n ≤ 0x7ff) :
    Spells [UInt8.ofNat (n / 64 % 32 + 192), UInt8.ofNat (n % 64 + 128)] (Char.ofNat n) := by
  have hb : (UInt8.ofNat (n / 64 % 32 + 192)).toNat = n / 64 + 192 := by
    rw [toNat_byte (by omega)]
    omega
  have hvalue : (n / 64 + 192) % 32 * 64 + n % 64 = n := by omega
  refine ⟨_, _, rfl, fun rest => ?_⟩
  rw [List.cons_append, front_two _ (by omega) (by omega) (isTail_byte n), hb,
    tailBits_byte, hvalue]
  rfl

theorem spells_three (h : 0x7ff < n) (h' : n ≤ 0xffff) (hproper : n < 0xD800 ∨ 0xDFFF < n) :
    Spells [UInt8.ofNat (n / 4096 % 16 + 224), UInt8.ofNat (n / 64 % 64 + 128),
      UInt8.ofNat (n % 64 + 128)] (Char.ofNat n) := by
  have hb : (UInt8.ofNat (n / 4096 % 16 + 224)).toNat = n / 4096 + 224 := by
    rw [toNat_byte (by omega)]
    omega
  have hc : (UInt8.ofNat (n / 64 % 64 + 128)).toNat = n / 64 % 64 + 128 := toNat_byte (by omega)
  have hfits := fitsSecond_of_tail (b := UInt8.ofNat (n / 4096 % 16 + 224)) (isTail_byte (n / 64))
    (by omega) (by omega) (by omega) (by omega)
  have hvalue : (n / 4096 + 224) % 16 * 4096 + n / 64 % 64 * 64 + n % 64 = n := by omega
  refine ⟨_, _, rfl, fun rest => ?_⟩
  rw [List.cons_append, List.cons_append, front_three _ (by omega) (by omega) hfits (isTail_byte n),
    hb, tailBits_byte, tailBits_byte, hvalue]
  rfl

theorem spells_four (h : 0xffff < n) (h' : n < 0x110000) :
    Spells [UInt8.ofNat (n / 262144 % 8 + 240), UInt8.ofNat (n / 4096 % 64 + 128),
      UInt8.ofNat (n / 64 % 64 + 128), UInt8.ofNat (n % 64 + 128)] (Char.ofNat n) := by
  have hb : (UInt8.ofNat (n / 262144 % 8 + 240)).toNat = n / 262144 + 240 := by
    rw [toNat_byte (by omega)]
    omega
  have hc : (UInt8.ofNat (n / 4096 % 64 + 128)).toNat = n / 4096 % 64 + 128 := toNat_byte (by omega)
  have hfits :=
    fitsSecond_of_tail (b := UInt8.ofNat (n / 262144 % 8 + 240)) (isTail_byte (n / 4096))
    (by omega) (by omega) (by omega) (by omega)
  have hvalue :
      (n / 262144 + 240) % 8 * 262144 + n / 4096 % 64 * 4096 + n / 64 % 64 * 64 + n % 64 = n := by
    omega
  refine ⟨_, _, rfl, fun rest => ?_⟩
  rw [List.cons_append, List.cons_append, List.cons_append, front_four _ (by omega) (by omega) hfits
    (isTail_byte (n / 64)) (isTail_byte n), hb, tailBits_byte, tailBits_byte, tailBits_byte, hvalue]
  rfl

end Spells

/-- Every character is spelled by its own bytes; one lemma above for each number of bytes.
    -/
theorem spells_encodeChar (c : Char) : Spells (String.utf8EncodeChar c) c := by
  -- the code points of characters are those outside the surrogates
  have hrange : c.val.toNat < 0xD800 ∨ 0xDFFF < c.val.toNat ∧ c.val.toNat < 0x110000 := c.valid
  suffices hspells : Spells (String.utf8EncodeChar c) (Char.ofNat c.val.toNat) by
    rwa [show Char.ofNat c.val.toNat = c from Char.ofNat_toNat c] at hspells
  unfold String.utf8EncodeChar
  generalize c.val.toNat = n at hrange
  dsimp only
  split_ifs with hone htwo hthree
  · exact spells_one hone
  · exact spells_two (by omega) htwo
  · exact spells_three (by omega) hthree (by omega)
  · exact spells_four (by omega) (by omega)

/-- At the front of the bytes of a text stands its first character. -/
theorem front_encode (c : Char) (s : List Char) :
    ∃ b more, encode (c :: s) = b :: (more ++ encode s)
      ∧ front b (more ++ encode s) = .char c (more.length + 1) := by
  obtain ⟨b, more, hbytes, hfront⟩ := spells_encodeChar c
  refine ⟨b, more, ?_, hfront _⟩
  rw [encode, List.flatMap_cons, hbytes]
  rfl

theorem encode_ascii {c : Char} (h : c.toNat < 0x80) (s : List Char) :
    encode (c :: s) = UInt8.ofNat c.toNat :: encode s := by
  have hone : c.toNat ≤ 0x7f := Nat.le_of_lt_succ h
  simp [encode, String.utf8EncodeChar, hone]

/-- Only the first character of ASCII is written with a zero byte in front. -/
theorem encode_front_ne_zero {c : Char} (h : c ≠ '\x00') (s : List Char) :
    ∃ b rest, encode (c :: s) = b :: rest ∧ b ≠ 0 := by
  obtain ⟨b, more, hbytes, hfront⟩ := front_encode c s
  refine ⟨b, _, hbytes, ?_⟩
  rintro rfl
  rw [front_one _ (by decide)] at hfront
  exact h (Front.char.inj hfront).1.symm

/-! ### Whole texts -/

/-- Bytes that belong to the character read last are passed over. -/
theorem decodeLenientFrom_skip (acc : List Char) (more rest : List UInt8) :
    decodeLenientFrom more.length acc (more ++ rest) = decodeLenientFrom 0 acc rest := by
  induction more with
  | nil => rfl
  | cons b more ih => exact ih

/-- Bytes of a text are read back as that text, with nothing replaced. -/
theorem decodeLenientFrom_encode (acc s : List Char) :
    decodeLenientFrom 0 acc (encode s) = acc.reverse ++ s := by
  induction s generalizing acc with
  | nil => simp [encode, decodeLenientFrom]
  | cons c s ih =>
    obtain ⟨b, more, hbytes, hfront⟩ := front_encode c s
    rw [hbytes, decodeLenientFrom, hfront]
    dsimp only
    rw [Nat.add_sub_cancel, decodeLenientFrom_skip, ih]
    simp

/-- The bytes of a text are read back. -/
theorem decodeLenient_encode (s : List Char) : decodeLenient (encode s) = s :=
  decodeLenientFrom_encode [] s

theorem decodeFrom_skip (index : Nat) (acc : List Char) (more rest : List UInt8) :
    decodeFrom index more.length acc (more ++ rest)
      = decodeFrom (index + more.length) 0 acc rest := by
  induction more generalizing index with
  | nil => rfl
  | cons b more ih =>
    rw [List.length_cons, List.cons_append, decodeFrom, ih]
    congr 1
    omega

theorem decodeFrom_encode (index : Nat) (acc s : List Char) :
    decodeFrom index 0 acc (encode s) = .ok (acc.reverse ++ s) := by
  induction s generalizing index acc with
  | nil => simp [encode, decodeFrom]
  | cons c s ih =>
    obtain ⟨b, more, hbytes, hfront⟩ := front_encode c s
    rw [hbytes, decodeFrom, hfront]
    dsimp only
    rw [Nat.add_sub_cancel, decodeFrom_skip, ih]
    simp

/-- The bytes of a text have no flaw. -/
theorem decode_encode (s : List Char) : decode (encode s) = .ok s := decodeFrom_encode 0 [] s

end Gleaner.Text.Utf8
