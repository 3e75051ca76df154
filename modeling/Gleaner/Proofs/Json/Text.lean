/-
  Gleaner/Proofs/Json/Text.lean
  =============================
  **Texts in Json.**  A text between quotes, with what has to be escaped escaped, is read
  as it was (`readText_quote`).  However a text is written, it is read from its own
  characters as far as the closing quote, and what follows makes no difference
  (`readText_extent`).
-/
import Gleaner.Json.Printer
import Gleaner.Json.Reader

namespace Gleaner.Json

section
variable (start acc : List Char)

theorem readText_unit {a b c d : Char} {n : Nat} (hread : fourHex? a b c d = some n)
    (hwhole : isHighHalf n = false) (x : Char) (s : List Char) :
    readText start acc ('\\' :: 'u' :: a :: b :: c :: d :: x :: s)
      = readText start (unitChar n :: acc) (x :: s) := by
  by_cases hnext : ∃ e f g h y r, x :: s = '\\' :: 'u' :: e :: f :: g :: h :: y :: r
  · obtain ⟨e, f, g, h, y, r, heq⟩ := hnext
    rw [heq, readText.eq_2, hread]
    simp [hwhole]
  · rw [readText.eq_3 start acc a b c d x s (fun e f g h y r hx hs => hnext ⟨e, f, g, h, y, r,
      by rw [hx, hs]⟩), hread]

theorem readText_letter {c d : Char} (hunit : c ≠ 'u') (h : unescape? c = some d) (s : List Char) :
    readText start acc ('\\' :: c :: s) = readText start (d :: acc) s := by
  have hu : c = 'u' → False := hunit
  rw [readText.eq_6 start acc c s (fun _ _ _ _ _ _ _ _ _ _ e _ => hu e)
    (fun _ _ _ _ _ _ e _ => hu e) (fun e => hu e), h]

theorem readText_plain {c : Char} (hslash : c ≠ '\\') (hquote : c ≠ '\x22')
    (hsolid : ¬ c.toNat < 0x20) (s : List Char) :
    readText start acc (c :: s) = readText start (c :: acc) s := by
  rw [readText.eq_7]
  · rw [if_neg hquote, if_neg hsolid]
  all_goals simp [hslash]

theorem hexText_control : ∀ n < 0x20,
    Text.hexText 4 n = ['0', '0', Text.hexDigit (n / 16), Text.hexDigit (n % 16)]
      ∧ fourHex? '0' '0' (Text.hexDigit (n / 16)) (Text.hexDigit (n % 16)) = some n
      ∧ isHighHalf n = false ∧ unitChar n = Char.ofNat n := by
  decide

/-- An escaped character is read as the character. -/
theorem readText_escapeChar (c x : Char) (s : List Char) :
    readText start acc (escapeChar c ++ x :: s) = readText start (c :: acc) (x :: s) := by
  have hletter (d e : Char) (hunit : d ≠ 'u') (h : unescape? d = some e) :=
    readText_letter start acc hunit h (x :: s)
  unfold escapeChar
  split
  · next h => exact h ▸ hletter '\x22' '\x22' (by decide) rfl
  split
  · next h => exact h ▸ hletter '\\' '\\' (by decide) rfl
  split
  · next h => exact h ▸ hletter 'n' '\n' (by decide) rfl
  split
  · next h => exact h ▸ hletter 'r' '\r' (by decide) rfl
  split
  · next h => exact h ▸ hletter 't' '\t' (by decide) rfl
  split
  · next h => exact h ▸ hletter 'b' '\x08' (by decide) rfl
  split
  · next h => exact h ▸ hletter 'f' '\x0c' (by decide) rfl
  next hquote hslash _ _ _ _ _ =>
  split
  · next hcontrol =>
    obtain ⟨hhex, hfour, hwhole, hunit⟩ := hexText_control c.toNat hcontrol
    rw [hhex]
    simp only [List.cons_append, List.nil_append]
    rw [readText_unit start acc hfour hwhole, hunit, Char.ofNat_toNat]
  · next hsolid => exact readText_plain start acc hslash hquote hsolid _

end

/-- A text between quotes is read as it was. -/
theorem readText_quote (start : List Char) (s : String) (rest : List Char) :
    readText start [] (s.toList.flatMap escapeChar ++ '\x22' :: rest) = .ok (s, rest) := by
  have hall : ∀ cs acc : List Char, readText start acc (cs.flatMap escapeChar ++ '\x22' :: rest)
      = .ok (String.ofList (acc.reverse ++ cs), rest) := by
    intro cs
    induction cs with
    | nil => intro acc; simp [readText]
    | cons c cs ih =>
      intro acc
      obtain ⟨x, more, hmore⟩ : ∃ x more, cs.flatMap escapeChar ++ '\x22' :: rest = x :: more :=
        List.exists_cons_of_ne_nil (by simp)
      rw [List.flatMap_cons, List.append_assoc, hmore, readText_escapeChar, ← hmore, ih]
      simp
  simpa using hall s.toList []

/-! ### The characters of a text -/

/-- After `acc` these characters complete the text, whatever follows them. -/
def EndsText (acc cs : List Char) (t : String) : Prop :=
  ∀ start rest, readText start acc (cs ++ rest) = .ok (t, rest)

section
variable {start acc cs w s r rest : List Char} {t : String} {n : Nat} {a b c d x : Char}

/-- A code is not cut short. -/
theorem readText_code (h : readText start acc ('\\' :: 'u' :: w) = .ok (t, rest)) :
    ∃ e f g k y q, w = e :: f :: g :: k :: y :: q := by
  match w, h with
  | [], h => simp [readText, failAt] at h
  | [_], h => simp [readText, failAt] at h
  | [_, _], h => simp [readText, failAt] at h
  | [_, _, _], h => simp [readText, failAt] at h
  | [_, _, _, _], h => simp [readText, failAt] at h
  | e :: f :: g :: k :: y :: q, _ => exact ⟨e, f, g, k, y, q, rfl⟩

theorem EndsText.ne_nil (h : EndsText acc cs t) : cs ≠ [] := by
  rintro rfl
  have hread := h [] []
  rw [List.append_nil, readText_nil] at hread
  cases hread

/-- A code at the front is there in full, with a character after it. -/
theorem EndsText.code (hends : EndsText acc cs t) (hfront : cs ++ rest = '\\' :: 'u' :: w) :
    ∃ e f g k y q, cs = '\\' :: 'u' :: e :: f :: g :: k :: y :: q := by
  have hread := hends [] []
  rw [List.append_nil] at hread
  rcases cs with _ | ⟨c, _ | ⟨d, cs⟩⟩
  · simp [readText_nil, failAt] at hread
  · obtain ⟨rfl, -⟩ := List.cons.inj hfront
    simp [readText, failAt] at hread
  · obtain ⟨rfl, rfl, -⟩ : c = '\\' ∧ d = 'u' ∧ cs ++ rest = w := by simpa using hfront
    obtain ⟨e, f, g, k, y, q, rfl⟩ := readText_code hread
    exact ⟨e, f, g, k, y, q, rfl⟩

/-- A code that is not the first half of a pair stands for itself. -/
theorem readText_alone (hn : fourHex? a b c d = some n)
    (halone : isHighHalf n = true → ∀ e f g k y q,
      x :: s = '\\' :: 'u' :: e :: f :: g :: k :: y :: q →
      ∃ m, fourHex? e f g k = some m ∧ isLowHalf m = false) :
    readText start acc ('\\' :: 'u' :: a :: b :: c :: d :: x :: s)
      = readText start (unitChar n :: acc) (x :: s) := by
  by_cases hnext : ∃ e f g k y q, x :: s = '\\' :: 'u' :: e :: f :: g :: k :: y :: q
  · obtain ⟨e, f, g, k, y, q, heq⟩ := hnext
    cases hhigh : isHighHalf n with
    | false => exact readText_unit start acc hn hhigh x s
    | true =>
      obtain ⟨m, hm, hlow⟩ := halone hhigh e f g k y q heq
      rw [heq, readText.eq_2, hn]
      simp [hhigh, hm, hlow]
  · rw [readText.eq_3 start acc a b c d x s (fun e f g k y q hx hs => hnext ⟨e, f, g, k, y, q,
      by rw [hx, hs]⟩), hn]

/-- A code goes with what ends the text after it, if it does not become half of a pair. -/
theorem EndsText.after_code (hends : EndsText (unitChar n :: acc) cs t)
    (hn : fourHex? a b c d = some n)
    (halone : isHighHalf n = true → ∀ e f g k y q, cs = '\\' :: 'u' :: e :: f :: g :: k :: y :: q →
      ∃ m, fourHex? e f g k = some m ∧ isLowHalf m = false) :
    EndsText acc ('\\' :: 'u' :: a :: b :: c :: d :: cs) t := by
  intro start rest
  obtain ⟨x, more, rfl⟩ := List.exists_cons_of_ne_nil hends.ne_nil
  refine (readText_alone hn fun hhigh e f g k y q heq => ?_).trans (hends start rest)
  have hfront : (x :: more) ++ rest = '\\' :: 'u' :: e :: f :: g :: k :: y :: q := heq
  obtain ⟨e', f', g', k', y', q', hcode⟩ := hends.code hfront
  obtain ⟨m, hm⟩ := halone hhigh e' f' g' k' y' q' hcode
  rw [hcode] at hfront
  simp only [List.cons_append, List.cons.injEq, true_and] at hfront
  obtain ⟨rfl, rfl, rfl, rfl, -⟩ := hfront
  exact ⟨m, hm⟩

/-- The rest of a string is read from its own characters, whatever follows its quote. -/
theorem readText_extent (hread : readText start acc s = .ok (t, r)) :
    ∃ cs, s = cs ++ r ∧ EndsText acc cs t := by
  fun_induction readText start acc s with
  | case4 acc a b c d e f g k x s n hn hhigh m hm hlow ih =>
    -- two halves of a pair
    obtain ⟨cs, hs, hends⟩ := ih hread
    refine ⟨'\\' :: 'u' :: a :: b :: c :: d :: '\\' :: 'u' :: e :: f :: g :: k :: cs,
      by rw [hs]; rfl, ?_⟩
    intro start rest
    obtain ⟨y, more, rfl⟩ := List.exists_cons_of_ne_nil hends.ne_nil
    simp only [List.cons_append]
    rw [readText.eq_2, hn]
    simp only [hhigh, hm, hlow, if_true]
    exact hends start rest
  | case5 acc a b c d e f g k x s n hn hhigh m hm hlow ih =>
    -- a first half and a code that is no second half
    obtain ⟨cs, hs, hends⟩ := ih hread
    refine ⟨_, by rw [hs]; rfl, hends.after_code hn fun _ e' f' g' k' y q hcode => ⟨m, ?_,
      by simpa using hlow⟩⟩
    rw [hcode] at hs
    simp only [List.cons_append, List.cons.injEq, true_and] at hs
    obtain ⟨rfl, rfl, rfl, rfl, -⟩ := hs
    exact hm
  | case6 acc a b c d e f g k x s n hn hhigh ih =>
    obtain ⟨cs, hs, hends⟩ := ih hread
    exact ⟨_, by rw [hs]; rfl, hends.after_code hn fun h => absurd h hhigh⟩
  | case8 acc a b c d x s hnext n hn ih =>
    obtain ⟨cs, hs, hends⟩ := ih hread
    refine ⟨_, by rw [hs]; rfl, hends.after_code hn fun _ e f g k y q hcode => ?_⟩
    rw [hcode] at hs
    obtain ⟨hx, hs⟩ := List.cons.inj hs
    exact (hnext e f g k y (q ++ r) hx hs).elim
  | case12 acc c s _ _ hunit d hd ih =>
    obtain ⟨cs, hs, hends⟩ := ih hread
    refine ⟨'\\' :: c :: cs, by rw [hs]; rfl, fun start rest => ?_⟩
    exact (readText_letter start acc hunit hd _).trans (hends start rest)
  | case13 acc s =>
    cases hread
    exact ⟨['\x22'], rfl, fun start rest => by simp [readText]⟩
  | case15 acc c s _ _ hunit hend hletter hquote hsolid ih =>
    have hslash : c ≠ '\\' := by
      rintro rfl
      cases s with
      | nil => exact hend rfl rfl
      | cons d s => exact hletter d s rfl rfl
    obtain ⟨cs, hs, hends⟩ := ih hread
    refine ⟨c :: cs, by rw [hs]; rfl, fun start rest => ?_⟩
    exact (readText_plain start acc hslash hquote hsolid _).trans (hends start rest)
  | _ => cases hread

end

end Gleaner.Json
