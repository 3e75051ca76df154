/-
  Gleaner/Proofs/Page/Sniff.lean
  ==============================
  **Text and its bytes, told apart.**  Whether a text looks like data is asked of its
  characters, and of its bytes byte by byte: there whatever is made of the bytes of the byte
  order mark passes for marks, and only the blanks of ASCII are blank.  So a text and its
  bytes are taken for the same exactly if these differences do not come before an opening
  sign (`sniffed_alike_iff`).
-/
import Gleaner.Proofs.Json.Bytes
import Gleaner.Proofs.Page.Outcome
import Gleaner.Proofs.Text.Run
import Gleaner.Proofs.Text.Utf8

namespace Gleaner.Body

open Text (isBlank isByteBlank)
open Text.Utf8 (encode)

/-! ### Openings -/

def IsOpening (c : Char) : Prop := c = '{' ∨ c = '['

/-- The characters with no bytes but those of the byte order mark. -/
def markLike : List Char := [mark, '\uFEFB', '\uFFFB', '\uFFFF']

def asciiBlanks : List Char := [' ', '\t', '\n', '\x0b', '\x0c', '\r']

def opensAfter (blank : Char → Bool) (s : List Char) : Bool :=
  match s.dropWhile blank with
  | c :: _ => c == '\x7b' || c == '['
  | [] => false

theorem looksLikeJson_text (s : String) :
    (Body.text s).looksLikeJson = opensAfter isBlank (s.toList.dropWhile (· == mark)) := rfl

section
variable {front blank : Char → Bool} {s m b rest : List Char} {c : Char}

theorem opensAfter_cons_of_blank (h : blank c = true) (s : List Char) :
    opensAfter blank (c :: s) = opensAfter blank s := by
  rw [opensAfter, List.dropWhile_cons_of_pos h, opensAfter]

theorem opensAfter_cons (h : blank c = false) (s : List Char) :
    opensAfter blank (c :: s) = (c == '\x7b' || c == '[') := by
  rw [opensAfter, List.dropWhile_cons_of_neg (by simp [h])]

/-- A text splits at its opening sign. -/
theorem opensAfter_front_iff (hopening : ∀ c, IsOpening c → front c = false ∧ blank c = false)
    (hblank : ∀ c, blank c = true → front c = false) : opensAfter blank (s.dropWhile front) = true
      ↔ ∃ m b c rest, s = m ++ (b ++ c :: rest) ∧ (∀ x ∈ m, front x = true)
        ∧ (∀ x ∈ b, blank x = true)
        ∧ IsOpening c := by
  constructor
  · intro h
    unfold opensAfter at h
    split at h
    · next c rest hrest =>
      refine ⟨s.takeWhile front, (s.dropWhile front).takeWhile blank, c, rest, ?_, ?_, ?_, ?_⟩
      · rw [← hrest, List.takeWhile_append_dropWhile, List.takeWhile_append_dropWhile]
      · exact fun x hx => List.mem_takeWhile_imp hx
      · exact fun x hx => List.mem_takeWhile_imp hx
      · simpa [IsOpening] using h
    · cases h
  · rintro ⟨m, b, c, rest, rfl, hm, hb, hc⟩
    have hfront : ∀ x ∈ (b ++ c :: rest).head?, front x = false := by
      cases b with
      | nil => simpa using (hopening c hc).1
      | cons d b => simpa using hblank d (hb d List.mem_cons_self)
    have hblanks : (b ++ c :: rest).dropWhile blank = c :: rest :=
      Text.dropWhile_run hb (by simpa using (hopening c hc).2)
    rw [opensAfter, Text.dropWhile_run hm hfront, hblanks]
    simpa [IsOpening] using hc

end

/-! ### Bytes of a character -/

section
variable {c : Char}

/-- The bytes of a character beyond ASCII are beyond ASCII. -/
theorem bytes_high (h : 0x80 ≤ c.toNat) : ∀ b ∈ String.utf8EncodeChar c, 0x80 ≤ b.toNat := by
  have hrange : c.val.toNat < 0xD800 ∨ 0xDFFF < c.val.toNat ∧ c.val.toNat < 0x110000 := c.valid
  have hlow (n : Nat) : 0x80 ≤ (UInt8.ofNat (n % 64 + 128)).toNat := by
    rw [Text.Utf8.toNat_byte (by omega)]
    omega
  replace h : 0x80 ≤ c.val.toNat := h
  unfold String.utf8EncodeChar
  generalize c.val.toNat = n at h hrange
  dsimp only
  split_ifs with hone htwo hthree
  · omega
  all_goals
    simp only [List.forall_mem_cons, hlow, List.not_mem_nil, false_imp_iff, implies_true, and_true]
    rw [Text.Utf8.toNat_byte (by omega)]
    omega

theorem mem_markBytes {n : Nat} (h : n < 256) :
    markBytes.contains (UInt8.ofNat n) = true ↔ n = 0xEF ∨ n = 0xBB ∨ n = 0xBF := by
  simp [markBytes, ← UInt8.toNat_inj, Text.Utf8.toNat_byte h]

/-- These are the characters whose bytes all pass for bytes of a mark. -/
theorem bytes_mark_iff :
    (∀ b ∈ String.utf8EncodeChar c, markBytes.contains b = true) ↔ c ∈ markLike := by
  constructor
  · intro h
    have hrange : c.val.toNat < 0xD800 ∨ 0xDFFF < c.val.toNat ∧ c.val.toNat < 0x110000 := c.valid
    suffices hcode : c.toNat = 0xFEFF ∨ c.toNat = 0xFEFB ∨ c.toNat = 0xFFFB ∨ c.toNat = 0xFFFF by
      rcases hcode with hc | hc | hc | hc
      all_goals
        rw [← Char.ofNat_toNat c, hc]
        decide
    change c.val.toNat = _ ∨ c.val.toNat = _ ∨ c.val.toNat = _ ∨ c.val.toNat = _
    unfold String.utf8EncodeChar at h
    generalize c.val.toNat = n at h hrange
    dsimp only at h
    split_ifs at h with hone htwo hthree
    all_goals
      simp only [List.forall_mem_cons, List.not_mem_nil, false_imp_iff, implies_true, and_true] at h
    · rw [mem_markBytes (by omega)] at h
      omega
    · rw [mem_markBytes (by omega), mem_markBytes (by omega)] at h
      omega
    · rw [mem_markBytes (by omega), mem_markBytes (by omega), mem_markBytes (by omega)] at h
      omega
    · rw [mem_markBytes (by omega)] at h
      omega
  · intro h
    simp only [markLike, mark, List.mem_cons, List.not_mem_nil, or_false] at h
    rcases h with rfl | rfl | rfl | rfl
    all_goals exact List.all_eq_true.mp (by decide)

end

/-! ### Bytes of a text -/

def bytesOpen (b : List UInt8) : Bool :=
  match b.dropWhile isByteBlank with
  | c :: _ => c == 0x7b || c == 0x5b
  | [] => false

theorem looksLikeJson_bytes (b : List UInt8) :
    (Body.bytes b).looksLikeJson = bytesOpen (b.dropWhile (markBytes.contains ·)) := rfl

section
variable {c : Char} {s : List Char}

/-- A byte beyond ASCII opens nothing and is no blank. -/
theorem bytesOpen_high {b : UInt8} (h : 0x80 ≤ b.toNat) (rest : List UInt8) :
    bytesOpen (b :: rest) = false := by
  have hblank : isByteBlank b = false := by
    simp [isByteBlank, ← UInt8.toNat_inj, UInt8.le_iff_toNat_le]
    omega
  rw [bytesOpen, List.dropWhile_cons_of_neg (by simp [hblank])]
  simp [← UInt8.toNat_inj]
  omega

theorem byte_of_ascii (h : c.toNat < 0x80) :
    isByteBlank (UInt8.ofNat c.toNat) = asciiBlanks.contains c
    ∧ (UInt8.ofNat c.toNat == 0x7b || UInt8.ofNat c.toNat == 0x5b) = (c == '{' || c == '[') :=
  Text.forall_ascii (p := fun c => isByteBlank (UInt8.ofNat c.toNat) = asciiBlanks.contains c
    ∧ (UInt8.ofNat c.toNat == 0x7b || UInt8.ofNat c.toNat == 0x5b)
      = (c == '{' || c == '[')) (by decide) h

theorem not_blank_of_high (h : 0x80 ≤ c.toNat) :
    asciiBlanks.contains c = false ∧ (c == '{' || c == '[') = false := by
  have hne : ∀ d : Char, d.toNat < 0x80 → c ≠ d := by
    rintro _ hd rfl
    omega
  simp [asciiBlanks, hne]

theorem opensAfter_high (h : 0x80 ≤ c.toNat) (s : List Char) :
    opensAfter (asciiBlanks.contains ·) (c :: s) = false :=
  (opensAfter_cons (not_blank_of_high h).1 s).trans (not_blank_of_high h).2

/-- Without marks the bytes of a text open as the text does. -/
theorem bytesOpen_encode (s : List Char) :
    bytesOpen (encode s) = opensAfter (asciiBlanks.contains ·) s := by
  induction s with
  | nil => rfl
  | cons c s ih =>
    by_cases hc : c.toNat < 0x80
    · obtain ⟨hblank, hopening⟩ := byte_of_ascii hc
      rw [Text.Utf8.encode_ascii hc, bytesOpen]
      cases hb : asciiBlanks.contains c with
      | true =>
        rw [List.dropWhile_cons_of_pos (hblank.trans hb), ← bytesOpen, ih,
          opensAfter_cons_of_blank hb]
      | false =>
        rw [List.dropWhile_cons_of_neg (by simp [hblank.trans hb]), opensAfter_cons hb]
        exact hopening
    · have hhigh := bytes_high (Nat.le_of_not_lt hc)
      obtain ⟨b, more, hbytes, -⟩ := Text.Utf8.spells_encodeChar c
      rw [encode, List.flatMap_cons, hbytes, List.cons_append,
        bytesOpen_high (hhigh b (by simp [hbytes])), opensAfter_high (Nat.le_of_not_lt hc)]

/-- Of the bytes of a character that is not like a mark some are left, and they open as the
    character does. -/
theorem dropMarks_encode (hc : c ∉ markLike) (s : List Char) :
    bytesOpen ((encode (c :: s)).dropWhile (markBytes.contains ·))
      = opensAfter (asciiBlanks.contains ·) (c :: s) := by
  by_cases hascii : c.toNat < 0x80
  · have hmark : markBytes.contains (UInt8.ofNat c.toNat) = false := by
      rw [Bool.eq_false_iff, ne_eq, mem_markBytes (by omega)]
      omega
    rw [← bytesOpen_encode, Text.Utf8.encode_ascii hascii,
      List.dropWhile_cons_of_neg (ne_true_of_eq_false hmark)]
  · have hhigh := Nat.le_of_not_lt hascii
    have hleft : (String.utf8EncodeChar c).dropWhile (markBytes.contains ·) ≠ [] := by
      rw [ne_eq, List.dropWhile_eq_nil_iff]
      exact fun hall => hc (bytes_mark_iff.mp hall)
    obtain ⟨b, more, hb⟩ := List.exists_cons_of_ne_nil hleft
    have hmem : b ∈ String.utf8EncodeChar c :=
      (List.dropWhile_sublist _).mem (hb ▸ List.mem_cons_self)
    rw [encode, List.flatMap_cons, List.dropWhile_append, hb, List.isEmpty_cons, if_neg (by simp),
      List.cons_append, bytesOpen_high (bytes_high hhigh b hmem), opensAfter_high hhigh]

/-- The bytes of a text open after what looks like marks in it. -/
theorem looksLikeJson_encode (s : List Char) : (Body.bytes (encode s)).looksLikeJson
    = opensAfter (asciiBlanks.contains ·) (s.dropWhile (markLike.contains ·)) := by
  rw [looksLikeJson_bytes]
  induction s with
  | nil => rfl
  | cons c s ih =>
    by_cases hc : c ∈ markLike
    · rw [List.dropWhile_cons_of_pos (by simpa using hc), encode, List.flatMap_cons,
        List.dropWhile_append_of_pos (bytes_mark_iff.mpr hc)]
      exact ih
    · rw [List.dropWhile_cons_of_neg (by simpa using hc), dropMarks_encode hc]

end

/-! ### Both -/

/-- The text splits at its opening sign, after characters like marks and after blanks. -/
structure Splits (s m b : List Char) : Prop where
  opening : ∃ c rest, s = m ++ (b ++ c :: rest) ∧ IsOpening c
  marks : ∀ x ∈ m, x ∈ markLike
  blanks : ∀ x ∈ b, isBlank x = true

theorem not_markLike_of_isBlank {c : Char} (h : isBlank c = true) : c ∉ markLike := by
  intro hmark
  have hall : (markLike.all fun c => !isBlank c) = true := by decide
  have hc := List.all_eq_true.mp hall c hmark
  rw [h] at hc
  cases hc

theorem isBlank_of_ascii {c : Char} (h : c ∈ asciiBlanks) : isBlank c = true := by
  have hall : asciiBlanks.all isBlank = true := by decide
  exact List.all_eq_true.mp hall c h

theorem IsOpening.plain {c : Char} (h : IsOpening c) : c ∉ markLike ∧ isBlank c = false := by
  rcases h with rfl | rfl <;> decide

section
variable {s m b : List Char}

/-- A text splits in one way. -/
theorem Splits.unique {m' b' : List Char} (h : Splits s m b) (h' : Splits s m' b') :
    m = m' ∧ b = b' := by
  have hparts : ∀ {m b}, Splits s m b → m = s.takeWhile (markLike.contains ·)
      ∧ b = (s.dropWhile (markLike.contains ·)).takeWhile isBlank := by
    rintro m b ⟨⟨c, rest, rfl, hc⟩, hm, hb⟩
    have hfront : ∀ x ∈ (b ++ c :: rest).head?, markLike.contains x = false := by
      cases b with
      | nil => simpa using hc.plain.1
      | cons d b => simpa using not_markLike_of_isBlank (hb d List.mem_cons_self)
    have hmarks : ∀ x ∈ m, markLike.contains x = true := by simpa using hm
    rw [Text.takeWhile_run hmarks hfront, Text.dropWhile_run hmarks hfront,
      Text.takeWhile_run hb (by simpa using hc.plain.2)]
    exact ⟨rfl, rfl⟩
  exact ⟨(hparts h).1.trans (hparts h').1.symm, (hparts h).2.trans (hparts h').2.symm⟩

/-- A text looks like data if only marks and blanks come before its opening sign. -/
theorem text_iff {s : String} :
    (Body.text s).looksLikeJson = true ↔ ∃ m b, Splits s.toList m b ∧ ∀ x ∈ m, x = mark := by
  rw [looksLikeJson_text, opensAfter_front_iff]
  · constructor
    · rintro ⟨m, b, c, rest, hs, hm, hb, hc⟩
      have hmarks : ∀ x ∈ m, x = mark := by simpa using hm
      exact ⟨m, b, ⟨⟨c, rest, hs, hc⟩, fun x hx => hmarks x hx ▸ List.mem_cons_self, hb⟩, hmarks⟩
    · rintro ⟨m, b, ⟨⟨c, rest, hs, hc⟩, -, hb⟩, hm⟩
      exact ⟨m, b, c, rest, hs, by simpa using hm, hb, hc⟩
  · rintro c (rfl | rfl) <;> decide
  · intro c hc
    exact beq_false_of_ne fun hmark => not_markLike_of_isBlank hc (hmark ▸ List.mem_cons_self)

/-- Bytes look like data if only what is like marks and blanks of ASCII come before the opening
    sign. -/
theorem bytes_iff :
    (Body.bytes (encode s)).looksLikeJson = true ↔ ∃ m b, Splits s m b
      ∧ ∀ x ∈ b, x ∈ asciiBlanks := by
  rw [looksLikeJson_encode, opensAfter_front_iff]
  · constructor
    · rintro ⟨m, b, c, rest, hs, hm, hb, hc⟩
      have hblanks : ∀ x ∈ b, x ∈ asciiBlanks := by simpa using hb
      exact ⟨m, b, ⟨⟨c, rest, hs, hc⟩, by simpa using hm,
        fun x hx => isBlank_of_ascii (hblanks x hx)⟩, hblanks⟩
    · rintro ⟨m, b, ⟨⟨c, rest, hs, hc⟩, hm, -⟩, hb⟩
      exact ⟨m, b, c, rest, hs, by simpa using hm, by simpa using hb, hc⟩
  · rintro c (rfl | rfl) <;> decide
  · intro c hc
    simpa using not_markLike_of_isBlank (isBlank_of_ascii (by simpa using hc))

/-- If the text has an opening sign after characters like marks and after blanks, the former are
    all marks exactly if the latter are all of ASCII. -/
def Alike (s : List Char) : Prop :=
  ∀ m b, Splits s m b → ((∀ x ∈ m, x = mark) ↔ ∀ x ∈ b, x ∈ asciiBlanks)

/-- Text and bytes look alike exactly if they split alike. -/
theorem looksLikeJson_eq_iff (s : String) :
    (Body.text s).looksLikeJson = (Body.bytes (encode s.toList)).looksLikeJson
      ↔ Alike s.toList := by
  rw [Bool.eq_iff_iff, text_iff, bytes_iff]
  constructor
  · intro h m b hsplits
    have hone : ∀ {p : List Char → List Char → Prop},
        (∃ m b, Splits s.toList m b ∧ p m b) ↔ p m b := by
      intro p
      constructor
      · rintro ⟨m', b', hsplits', hp⟩
        obtain ⟨rfl, rfl⟩ := hsplits.unique hsplits'
        exact hp
      · exact fun hp => ⟨m, b, hsplits, hp⟩
    rwa [hone (p := fun m _ => ∀ x ∈ m, x = mark),
      hone (p := fun _ b => ∀ x ∈ b, x ∈ asciiBlanks)] at h
  · intro h
    constructor
    · rintro ⟨m, b, hsplits, hm⟩
      exact ⟨m, b, hsplits, (h m b hsplits).mp hm⟩
    · rintro ⟨m, b, hsplits, hb⟩
      exact ⟨m, b, hsplits, (h m b hsplits).mpr hb⟩

end

/-! ### Pages -/

/-- No blank starts a value. -/
theorem not_isBlank_of_canStart {c : Char} (h : Json.CanStart c) :
    isBlank c = false ∧ c ∉ markLike := by
  rcases h with h | h
  · exact Text.forall_digit (p := fun c => isBlank c = false ∧ c ∉ markLike) (by decide) h
  · have hall : (Json.startSigns.all fun c => !isBlank c && !markLike.contains c) = true := by
      decide
    simpa using List.all_eq_true.mp hall c h

theorem ascii_of_isSpace {c : Char} (h : Json.isSpace c = true) : c ∈ asciiBlanks := by
  simp only [Json.isSpace, Bool.or_eq_true, beq_iff_eq] at h
  rcases h with ((rfl | rfl) | rfl) | rfl <;> decide

theorem readDocument_no_mark {x : Char} {s : List Char} {v : Json}
    (h : Json.readDocument (x :: s) = .ok v) :
    x ∉ markLike := by
  obtain ⟨b, c, rest, hb, hs, hc⟩ := Json.readDocument_front h
  cases b with
  | nil =>
    obtain ⟨rfl, -⟩ := List.cons.inj hs
    exact (not_isBlank_of_canStart hc).2
  | cons d b =>
    obtain ⟨rfl, -⟩ := List.cons.inj hs
    exact not_markLike_of_isBlank (isBlank_of_ascii (ascii_of_isSpace (hb x List.mem_cons_self)))

section
variable {s : String} {root : Json}

/-- A text that is read as data looks like data in its bytes. -/
theorem bytes_of_text_data (h : Page.read (.text s) = .ok (.data root)) :
    (Body.bytes (encode s.toList)).looksLikeJson = true := by
  have hjson : (Body.text s).looksLikeJson = true := (Page.isData_of_read h).symm
  rw [(Page.read_holds (.text hjson)).2] at h
  obtain ⟨b, c, rest, hb, hs, hc⟩ := Json.readDocument_front (Page.readDocument_of_readJson h)
  have hblanks : ∀ x ∈ b, x ∈ asciiBlanks := fun x hx => ascii_of_isSpace (hb x hx)
  have hopening : IsOpening c := by
    have hdrop : (b ++ c :: rest).dropWhile isBlank = c :: rest :=
      Text.dropWhile_run (fun x hx => isBlank_of_ascii (hblanks x hx))
        (by simpa using (not_isBlank_of_canStart hc).1)
    rw [looksLikeJson_text, hs, opensAfter, hdrop] at hjson
    simpa [IsOpening] using hjson
  refine bytes_iff.mpr ⟨s.toList.takeWhile (· == mark), b,
    ⟨⟨c, rest, ?_, hopening⟩, ?_, ?_⟩, hblanks⟩
  · rw [← hs, List.takeWhile_append_dropWhile]
  · intro x hx
    obtain rfl : x = mark := by simpa using List.mem_takeWhile_imp hx
    exact List.mem_cons_self
  · exact fun x hx => isBlank_of_ascii (hblanks x hx)

/-- Bytes that are read as data look like data as text: a mark at their front is taken off, and
    no other character like it is borne. -/
theorem text_of_bytes_data (h : Page.read (.bytes (encode s.toList)) = .ok (.data root)) :
    (Body.text s).looksLikeJson = true := by
  have hjson : (Body.bytes (encode s.toList)).looksLikeJson = true := (Page.isData_of_read h).symm
  obtain ⟨m, b, hsplits, -⟩ := bytes_iff.mp hjson
  refine text_iff.mpr ⟨m, b, hsplits, ?_⟩
  obtain ⟨⟨c, rest, hs, -⟩, hm, -⟩ := hsplits
  have hread : ∀ t, Json.textOfBytes (encode s.toList) = .ok t →
      Json.readDocument t = .ok root := by
    intro t ht
    rw [(Page.read_holds (.bytes hjson ht)).2] at h
    exact Page.readDocument_of_readJson h
  rcases m with _ | ⟨x, m⟩
  · simp
  rw [hs, List.cons_append] at hread
  have hx := hm x List.mem_cons_self
  simp only [markLike, List.mem_cons, List.not_mem_nil, or_false] at hx
  rcases hx with rfl | hx
  · rcases m with _ | ⟨y, m⟩
    · simp
    · exact absurd (hm y (by simp)) (readDocument_no_mark (hread _ (Json.textOfBytes_mark _)))
  · exact absurd (hm x List.mem_cons_self)
      (readDocument_no_mark (hread _ (Json.textOfBytes_markLike hx (by simp))))

end

/-- A text and its bytes are taken for the same exactly if marks alone and blanks of ASCII go
    together before an opening sign; if both can be read, then as pages of one kind. -/
theorem sniffed_alike_iff (s : String) :
    ((Body.text s).looksLikeJson = (Body.bytes (encode s.toList)).looksLikeJson ↔ Alike s.toList)
      ∧ ∀ p q, Page.read (.text s) = .ok p → Page.read (.bytes (encode s.toList)) = .ok q →
        p.isData = q.isData := by
  refine ⟨looksLikeJson_eq_iff s, fun p q hp hq => ?_⟩
  have htext := Page.isData_of_read hp
  have hbytes := Page.isData_of_read hq
  cases p with
  | data root => exact (hbytes.trans (bytes_of_text_data hp)).symm
  | document place =>
    cases q with
    | data root => exact htext.trans (text_of_bytes_data hq)
    | document place' => rfl

/-- A marked list, with a line end before it. -/
theorem marked_list_sniffed_alike :
    Alike "\uFEFF\n[1]".toList ∧ ∃ p q, Page.read (.text "\uFEFF\n[1]") = .ok p
      ∧ Page.read (.bytes (encode "\uFEFF\n[1]".toList)) = .ok q ∧ p.isData = q.isData := by
  obtain ⟨halike, hkind⟩ := sniffed_alike_iff "\uFEFF\n[1]"
  have htext : Page.read (.text "\uFEFF\n[1]") = .ok (.data (.arr [.int 1])) := by cbv
  have hbytes : Page.read (.bytes (encode "\uFEFF\n[1]".toList)) = .ok (.data (.arr [.int 1])) := by
    have hmark : Json.textOfBytes (encode "\uFEFF\n[1]".toList) = .ok ['\n', '[', '1', ']'] :=
      Json.textOfBytes_mark _
    rw [(Page.read_holds (.bytes (by decide) hmark)).2]
    cbv
  exact ⟨halike.mp (by decide), _, _, htext, hbytes, hkind _ _ htext hbytes⟩

/-- A letter with the bytes of a mark is passed over in bytes, and a wide blank in text. -/
theorem letter_sniffed_apart :
    ¬ ∀ s : String, (Body.text s).looksLikeJson = (Body.bytes (encode s.toList)).looksLikeJson := by
  intro h
  have htext : (Body.text "\uFEFB[").looksLikeJson = false := by decide
  have hbytes : (Body.bytes (encode "\uFEFB[".toList)).looksLikeJson = true := by decide
  have hsame := h "\uFEFB["
  rw [htext, hbytes] at hsame
  cases hsame

end Gleaner.Body
