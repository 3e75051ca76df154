/-
  Gleaner/Proofs/Json/Name.lean
  =============================
  **Paths of member names.**  A path `$.a.b` of plain names is read as one step for each name
  if all of them are in ASCII, and is refused as foreign if one is not (`parse_dotted`).

  A name beyond ASCII is read up to its first character beyond ASCII, where the words of the
  path end; what comes after that is never looked at.
-/
import Gleaner.Json.Path.Parser
import Gleaner.Proofs.Text.Trim
import Gleaner.Text.Word

namespace Gleaner.Json

/-! ### Plain names -/

def isAscii (c : Char) : Bool := c.toNat < 128

/-- A character of a plain name: a letter, a digit or the underscore of ASCII, and beyond it
    all but blanks and digits, so every letter. -/
def plainChar (c : Char) : Bool :=
  Path.nameStart c || Text.asciiDigit c || (!isAscii c && !Text.isBlank c && !Text.isDigit c)

/-- A text up to its first character beyond ASCII, and from there on. -/
def asciiFront (s : List Char) : List Char := s.takeWhile isAscii

def asciiBack (s : List Char) : List Char := s.dropWhile isAscii

def inAscii (name : String) : Bool := name.toList.all isAscii

/-- A name of which a path reads the front in ASCII as one word. -/
structure PlainName (name : String) : Prop where
  nonempty : name.toList ≠ []
  chars : ∀ c ∈ name.toList, plainChar c = true
  start : ∀ c ∈ name.toList.head?, Text.asciiDigit c = false
  front : asciiFront name.toList ≠ "where".toList ∧ asciiFront name.toList ≠ "wherenot".toList
  truths : ¬ "true".toList <+: asciiFront name.toList ∧ ¬ "false".toList <+: asciiFront name.toList

def dotted (names : List String) : List Char := names.flatMap fun name => '.' :: name.toList

theorem dotted_cons (name : String) (names : List String) :
    dotted (name :: names) = '.' :: (name.toList ++ dotted names) := rfl

section Characters

variable {c : Char}

theorem range_of_word (h : (Path.nameStart c || Text.asciiDigit c) = true) :
    48 ≤ c.toNat ∧ c.toNat ≤ 122 := by
  have hle (x y : Char) : x ≤ y ↔ x.toNat ≤ y.toNat := Iff.rfl
  simp only [Path.nameStart, Text.asciiLetter, Text.asciiDigit, Bool.or_eq_true, Bool.and_eq_true,
    decide_eq_true_eq, beq_iff_eq, hle] at h
  rcases h with ((h | h) | rfl) | h
  · exact ⟨Nat.le_trans (by decide) h.1, h.2⟩
  · exact ⟨Nat.le_trans (by decide) h.1, Nat.le_trans h.2 (by decide)⟩
  · decide
  · exact ⟨h.1, Nat.le_trans h.2 (by decide)⟩

/-- A plain character is of a word in ASCII, or beyond ASCII and neither blank nor a digit. -/
theorem plainChar_cases (h : plainChar c = true) :
    (isAscii c = true ∧ (Path.nameStart c || Text.asciiDigit c) = true)
      ∨ (isAscii c = false ∧ Text.isBlank c = false ∧ Text.isDigit c = false) := by
  unfold plainChar at h
  rcases Bool.or_eq_true_iff.mp h with hword | hbeyond
  · refine .inl ⟨decide_eq_true ?_, hword⟩
    exact Nat.lt_of_le_of_lt (range_of_word hword).2 (by decide)
  · simp only [Bool.and_eq_true, Bool.not_eq_true'] at hbeyond
    exact .inr ⟨hbeyond.1.1, hbeyond.1.2, hbeyond.2⟩

theorem isBlank_of_plain (h : plainChar c = true) : Text.isBlank c = false := by
  rcases plainChar_cases h with ⟨-, hword⟩ | ⟨-, hblank, -⟩
  · obtain ⟨hlow, hhigh⟩ := range_of_word hword
    simp only [Text.isBlank, Bool.or_eq_false_iff, Bool.and_eq_false_iff, decide_eq_false_iff_not,
      beq_eq_false_iff_ne]
    omega
  · exact hblank

theorem ne_of_beyond (h : isAscii c = false) (d : Char) (hd : isAscii d = true) : c ≠ d := by
  rintro rfl
  exact Bool.eq_false_iff.mp h hd

theorem ne_of_plain (h : plainChar c = true) (d : Char) (hd : plainChar d = false) : c ≠ d := by
  rintro rfl
  exact Bool.eq_false_iff.mp hd h

/-- Of the plain characters, those in ASCII may continue a name. -/
theorem nameRest_of_plain (h : plainChar c = true) : Path.nameRest c = isAscii c := by
  have hat : (c == '@') = false := beq_false_of_ne (ne_of_plain h '@' (by decide))
  have hdash : (c == '-') = false := beq_false_of_ne (ne_of_plain h '-' (by decide))
  unfold Path.nameRest
  rw [hat, hdash, Bool.or_false, Bool.or_false]
  rcases plainChar_cases h with ⟨hascii, hword⟩ | ⟨hascii, -, -⟩
  · rw [hascii, hword]
  · rw [hascii, Bool.eq_false_iff]
    intro hword
    obtain ⟨-, hhigh⟩ := range_of_word hword
    unfold isAscii at hascii
    rw [decide_eq_false_iff_not] at hascii
    omega

end Characters

/-! ### The front of a name -/

section Front

variable {s rest : List Char} (hs : ∀ c ∈ s, plainChar c = true)

theorem asciiFront_append_asciiBack (s : List Char) : asciiFront s ++ asciiBack s = s :=
  List.takeWhile_append_dropWhile

theorem asciiBack_eq_nil {name : String} : asciiBack name.toList = [] ↔ inAscii name = true := by
  unfold asciiBack inAscii
  rw [List.dropWhile_eq_nil_iff, List.all_eq_true]

theorem asciiFront_of_inAscii {name : String} (h : inAscii name = true) :
    asciiFront name.toList = name.toList := by
  rw [← List.append_nil (asciiFront name.toList), ← asciiBack_eq_nil.mpr h,
    asciiFront_append_asciiBack]

include hs in
/-- Where a name is followed by no character of a name, its front in ASCII is read. -/
theorem takeWhile_nameRest (hrest : rest.takeWhile Path.nameRest = []) :
    (s ++ rest).takeWhile Path.nameRest = asciiFront s := by
  induction s with
  | nil => exact hrest
  | cons c s ih =>
    unfold asciiFront
    rw [List.cons_append, List.takeWhile_cons, List.takeWhile_cons,
      nameRest_of_plain (hs c List.mem_cons_self), ih fun d hd => hs d (List.mem_cons_of_mem c hd)]
    rfl

include hs in
/-- Behind a name nothing of it is left but what follows its first character beyond ASCII.
    -/
theorem dropWhile_nameRest (hrest : rest.dropWhile Path.nameRest = rest) :
    (s ++ rest).dropWhile Path.nameRest = asciiBack s ++ rest := by
  induction s with
  | nil => exact hrest
  | cons c s ih =>
    unfold asciiBack
    rw [List.cons_append, List.dropWhile_cons, List.dropWhile_cons,
      nameRest_of_plain (hs c List.mem_cons_self), ih fun d hd => hs d (List.mem_cons_of_mem c hd)]
    cases isAscii c <;> rfl

theorem isAscii_of_asciiFront_nil {c : Char} (h : asciiFront (c :: s) = []) :
    isAscii c = false := by
  unfold asciiFront at h
  rw [List.takeWhile_cons] at h
  split at h
  · cases h
  · next hc => exact Bool.eq_false_iff.mpr hc

theorem mem_of_asciiBack {d : Char} {back : List Char} (h : asciiBack s = d :: back) :
    d ∈ s ∧ isAscii d = false := by
  unfold asciiBack at h
  have hne : s.dropWhile isAscii ≠ [] := by
    rw [h]
    exact List.cons_ne_nil d back
  constructor
  · refine (List.dropWhile_sublist isAscii).mem ?_
    rw [h]
    exact List.mem_cons_self
  · have hhead := List.head_dropWhile_not isAscii hne
    simpa only [h, List.head_cons] using hhead

theorem PlainName.eq_cons {name : String} (h : PlainName name) :
    ∃ c s, name.toList = c :: s ∧ plainChar c = true := by
  obtain ⟨c, s, hs⟩ := List.exists_cons_of_ne_nil h.nonempty
  refine ⟨c, s, hs, h.chars c ?_⟩
  rw [hs]
  exact List.mem_cons_self

/-- A name whose first character is in ASCII starts as a word. -/
theorem PlainName.nameStart {name : String} (h : PlainName name) {c : Char} {s : List Char}
    (hs : name.toList = c :: s) (hfront : asciiFront name.toList ≠ []) :
    Path.nameStart c = true := by
  have hdigit : Text.asciiDigit c = false := h.start c (by rw [hs]; rfl)
  rcases plainChar_cases (h.chars c (by rw [hs]; exact List.mem_cons_self))
    with ⟨-, hword⟩ | ⟨hascii, -, -⟩
  · rwa [hdigit, Bool.or_false] at hword
  · rw [hs, asciiFront, List.takeWhile_cons, hascii] at hfront
    exact absurd rfl hfront

end Front

/-! ### The words of a path -/

namespace Path

section Heads

variable {c : Char} {s : List Char}

theorem truth?_eq_none (ht : ¬ "true".toList <+: s) (hf : ¬ "false".toList <+: s) :
    truth? s = none := by
  have hnone : ∀ p : List Char, ¬ p <+: s → Text.dropFront? p s = none := by
    intro p hp
    rw [Option.eq_none_iff_forall_ne_some]
    intro r hr
    exact hp ⟨r, (Text.dropFront?_eq_some_iff.mp hr).symm⟩
  unfold truth?
  rw [hnone _ ht, hnone _ hf]
  rfl

theorem truth?_of_head (ht : c ≠ 't') (hf : c ≠ 'f') : truth? (c :: s) = none := by
  refine truth?_eq_none ?_ ?_
  · rintro ⟨r, hr⟩
    exact ht (List.head_eq_of_cons_eq hr).symm
  · rintro ⟨r, hr⟩
    exact hf (List.head_eq_of_cons_eq hr).symm

theorem direction?_eq_none (hblank : Text.isBlank c = false) (hcomma : c ≠ ',') (hslash : c ≠ '/')
    (hback : c ≠ '\\') : direction? (c :: s) = none := by
  unfold direction?
  extract_lets t
  have ht : t = c :: s := by
    unfold t
    split
    · next h => exact absurd (List.head_eq_of_cons_eq h) hcomma
    · rfl
  rw [ht, List.dropWhile_cons, if_neg (Bool.eq_false_iff.mp hblank)]
  split
  · next h => exact absurd (List.head_eq_of_cons_eq h) hslash
  · next h => exact absurd (List.head_eq_of_cons_eq h) hback
  · rfl

/-- A name is read as far as its characters go. -/
theorem name?_of_start (h : nameStart c = true) :
    name? (c :: s) = some ((c :: s).takeWhile nameRest, (c :: s).dropWhile nameRest) := by
  have hrest : nameRest c = true := by
    unfold nameRest
    rw [h, Bool.true_or, Bool.true_or, Bool.true_or]
  rw [List.takeWhile_cons, List.dropWhile_cons, if_pos hrest, if_pos hrest]
  unfold name?
  split
  · next heq =>
    rw [List.head_eq_of_cons_eq heq] at h
    exact absurd h (by decide)
  · next heq =>
    cases heq
    rw [if_pos h]
  · next heq => cases heq

theorem name?_eq_none (h : nameStart c = false) (hat : c ≠ '@') : name? (c :: s) = none := by
  unfold name?
  split
  · next heq => exact absurd (List.head_eq_of_cons_eq heq) hat
  · next heq =>
    cases heq
    rw [if_neg (Bool.eq_false_iff.mp h)]
  · rfl

theorem number?_eq_none (h : Text.isDigit c = false) (hdash : c ≠ '-') :
    number? (c :: s) = none := by
  have hdigits : (c :: s).takeWhile Text.isDigit = [] := by
    rw [List.takeWhile_cons, if_neg (Bool.eq_false_iff.mp h)]
  unfold number?
  split
  next negative t heq =>
    have ht : t = c :: s := by
      split at heq
      · next hcons => exact absurd (List.head_eq_of_cons_eq hcons) hdash
      · exact (Prod.mk.inj heq).2.symm
    rw [ht, hdigits]
    rfl

/-- No sign starts with a character beyond ASCII. -/
theorem anySign?_eq_none (h : isAscii c = false) : anySign? (c :: s) = none := by
  have hne := ne_of_beyond h
  have hpair : ∀ d, pairToken? c d = none := by
    intro d
    unfold pairToken?
    split
    case h_9 => rfl
    all_goals exact absurd rfl (hne _ (by decide))
  have hsign : signToken? c = none := by
    have hmem : ("*.[]()$,:|&~?@+/-!".toList.contains c) = false := by
      rw [Bool.eq_false_iff, Ne, List.contains_iff_mem]
      intro hmem
      have hall : "*.[]()$,:|&~?@+/-!".toList.all isAscii = true := by decide
      exact hne c (List.all_eq_true.mp hall c hmem) rfl
    unfold signToken?
    rw [if_neg (hne '=' (by decide)), if_neg (hne '<' (by decide)),
      if_neg (hne '>' (by decide)), hmem]
    rfl
  cases s with
  | nil => rw [anySign?, hsign, Option.map_none]
  | cons d s => rw [anySign?, hpair, hsign, Option.map_none]

/-- No word begins with a plain character beyond ASCII. -/
theorem token?_foreign (hplain : plainChar c = true) (hascii : isAscii c = false) :
    token? (c :: s) = none := by
  have hne := ne_of_beyond hascii
  have hstart : nameStart c = false := by
    have hrest : nameRest c = false := (nameRest_of_plain hplain).trans hascii
    simp only [nameRest, Bool.or_eq_false_iff] at hrest
    exact hrest.1.1.1
  obtain ⟨-, hblank, hdigit⟩ :=
    (plainChar_cases hplain).resolve_left fun h => Bool.eq_false_iff.mp hascii h.1
  unfold token?
  rw [truth?_of_head (hne 't' (by decide)) (hne 'f' (by decide)),
    direction?_eq_none hblank (hne ',' (by decide)) (hne '/' (by decide)) (hne '\\' (by decide)),
    name?_eq_none hstart (hne '@' (by decide)), number?_eq_none hdigit (hne '-' (by decide))]
  dsimp only
  split
  · next heq => exact absurd (List.head_eq_of_cons_eq heq) (hne '\x27' (by decide))
  · next heq => exact absurd (List.head_eq_of_cons_eq heq) (hne '\x22' (by decide))
  · next heq => exact absurd (List.head_eq_of_cons_eq heq) (hne '\x60' (by decide))
  · exact anySign?_eq_none hascii

theorem token?_dot (hc : c ≠ '.') : token? ('.' :: c :: s) = some (.sign '.', c :: s) := by
  have hpair : pairToken? '.' c = none := by
    unfold pairToken?
    split
    case h_1 => exact absurd rfl hc
    case h_9 => rfl
    all_goals simp_all
  have hsign : token? ('.' :: c :: s) = anySign? ('.' :: c :: s) := rfl
  rw [hsign, anySign?, hpair]
  rfl

end Heads

def Ends (rest : List Char) : Prop := ∀ c ∈ rest.head?, nameRest c = false

theorem Ends.takeWhile {rest : List Char} (h : Ends rest) : rest.takeWhile nameRest = [] := by
  cases rest with
  | nil => rfl
  | cons c rest => rw [List.takeWhile_cons, h c rfl]; rfl

theorem Ends.dropWhile {rest : List Char} (h : Ends rest) : rest.dropWhile nameRest = rest := by
  cases rest with
  | nil => rfl
  | cons c rest => rw [List.dropWhile_cons, h c rfl]; rfl

/-- The front of a name in ASCII is a word. -/
theorem token?_name {name : String} (hname : PlainName name) {rest : List Char} (hrest : Ends rest)
    (hfront : asciiFront name.toList ≠ []) :
    token? (name.toList ++ rest)
      = some (.name (String.ofList (asciiFront name.toList)), asciiBack name.toList ++ rest) := by
  have htake := takeWhile_nameRest hname.chars hrest.takeWhile
  have hdrop := dropWhile_nameRest hname.chars hrest.dropWhile
  -- `true` and `false` are words also at the front of a longer name, if they stand in its front
  have hlonger : ∀ word : List Char, word.all nameRest = true →
      ¬ word <+: asciiFront name.toList → ¬ word <+: name.toList ++ rest := by
    rintro word hword hno ⟨more, hmore⟩
    refine hno ?_
    rw [← htake, ← hmore, List.takeWhile_append_of_pos (List.all_eq_true.mp hword)]
    exact List.prefix_append _ _
  have htruth : truth? (name.toList ++ rest) = none :=
    truth?_eq_none (hlonger _ (by decide) hname.truths.1) (hlonger _ (by decide) hname.truths.2)
  obtain ⟨c, s, hs, hc⟩ := hname.eq_cons
  have hstart : nameStart c = true := hname.nameStart hs hfront
  have hname? : name? (name.toList ++ rest)
      = some (asciiFront name.toList, asciiBack name.toList ++ rest) := by
    rw [← htake, ← hdrop, hs, List.cons_append]
    exact name?_of_start hstart
  have hdirection : direction? (name.toList ++ rest) = none := by
    rw [hs, List.cons_append]
    exact direction?_eq_none (isBlank_of_plain hc) (ne_of_plain hc ',' (by decide))
      (ne_of_plain hc '/' (by decide)) (ne_of_plain hc '\\' (by decide))
  have hword :
      nameToken (asciiFront name.toList) = .name (String.ofList (asciiFront name.toList)) := by
    unfold nameToken
    rw [if_neg hname.front.1, if_neg hname.front.2]
  unfold token?
  rw [htruth, hdirection, hname?, ← hword]

/-! ### The words of names -/

/-- The words of a name, with the words after it.  What stands after a character beyond
    ASCII is not read. -/
def nameWords (name : String) (rest : List Token) : List Token :=
  if asciiFront name.toList = [] then [.foreign]
  else .name (String.ofList (asciiFront name.toList))
    :: if asciiBack name.toList = [] then rest else [.foreign]

def stepWords : List String → List Token
  | [] => []
  | name :: more => .sign '.' :: nameWords name (stepWords more)

theorem tokensFrom_word {c : Char} {s r : List Char} {w : Token} (fuel : Nat)
    (hgap : isGap c = false) (h : token? (c :: s) = some (w, r)) :
    tokensFrom (fuel + 1) (c :: s) = w :: tokensFrom fuel r := by
  rw [tokensFrom, List.dropWhile_cons, if_neg (Bool.eq_false_iff.mp hgap)]
  dsimp only
  rw [h]

theorem tokensFrom_foreign {c : Char} {s : List Char} (fuel : Nat) (hgap : isGap c = false)
    (h : token? (c :: s) = none) : tokensFrom (fuel + 1) (c :: s) = [.foreign] := by
  rw [tokensFrom, List.dropWhile_cons, if_neg (Bool.eq_false_iff.mp hgap)]
  dsimp only
  rw [h]

theorem isGap_of_plain {c : Char} (h : plainChar c = true) : isGap c = false := by
  have hne := ne_of_plain h
  unfold isGap
  rw [beq_false_of_ne (hne ' ' (by decide)), beq_false_of_ne (hne '\t' (by decide)),
    beq_false_of_ne (hne '\n' (by decide))]
  rfl

theorem ends_dotted (path : List String) : Ends (dotted path) := by
  cases path with
  | nil => exact fun c hc => nomatch hc
  | cons name more =>
    rintro c ⟨⟩
    decide

/-- A name and what follows it give the words of the name, with those of the rest. -/
theorem tokensFrom_name {name : String} (hname : PlainName name) (more : List String) (fuel : Nat)
    (hfuel : 2 ≤ fuel) : tokensFrom fuel (name.toList ++ dotted more)
      = nameWords name (tokensFrom (fuel - 1) (dotted more)) := by
  obtain ⟨c, s, hs, hc⟩ := hname.eq_cons
  obtain ⟨fuel, rfl⟩ : ∃ f, fuel = f + 2 := ⟨fuel - 2, by omega⟩
  unfold nameWords
  by_cases hfront : asciiFront name.toList = []
  · rw [if_pos hfront]
    rw [hs] at hfront ⊢
    exact tokensFrom_foreign (fuel + 1) (isGap_of_plain hc)
      (token?_foreign hc (isAscii_of_asciiFront_nil hfront))
  · have hword := token?_name hname (ends_dotted more) hfront
    rw [if_neg hfront]
    rw [hs, List.cons_append] at hword ⊢
    rw [tokensFrom_word (fuel + 1) (isGap_of_plain hc) hword, ← hs]
    congr 1
    cases hback : asciiBack name.toList with
    | nil => rfl
    | cons d back =>
      rw [if_neg (List.cons_ne_nil d back)]
      obtain ⟨hmem, hascii⟩ := mem_of_asciiBack hback
      have hd : plainChar d = true := hname.chars d hmem
      exact tokensFrom_foreign fuel (isGap_of_plain hd) (token?_foreign hd hascii)

/-- Dots and plain names are read as one word for each dot and one for each name, by
    induction on the names. -/
theorem tokensFrom_dotted {path : List String} (hpath : ∀ name ∈ path, PlainName name) (fuel : Nat)
    (hfuel : (dotted path).length < fuel) : tokensFrom fuel (dotted path) = stepWords path := by
  induction path generalizing fuel with
  | nil =>
    obtain ⟨fuel, rfl⟩ : ∃ f, fuel = f + 1 := ⟨fuel - 1, by omega⟩
    rfl
  | cons name more ih =>
    obtain ⟨hname, hmore⟩ := List.forall_mem_cons.mp hpath
    obtain ⟨c, s, hs, hc⟩ := hname.eq_cons
    have hlength : (dotted (name :: more)).length = s.length + 2 + (dotted more).length := by
      rw [dotted_cons, List.length_cons, List.length_append, hs, List.length_cons]
      omega
    have hdot : tokensFrom fuel (dotted (name :: more))
        = .sign '.' :: tokensFrom (fuel - 1) (name.toList ++ dotted more) := by
      obtain ⟨fuel, rfl⟩ : ∃ f, fuel = f + 1 := ⟨fuel - 1, by omega⟩
      rw [dotted_cons]
      refine tokensFrom_word fuel rfl ?_
      rw [hs, List.cons_append]
      exact token?_dot (ne_of_plain hc '.' (by decide))
    rw [hdot, tokensFrom_name hname more (fuel - 1) (by omega), ih hmore (fuel - 1 - 1) (by omega)]
    rfl

theorem tokens_dotted {path : List String} (hpath : ∀ name ∈ path, PlainName name) :
    tokens ('$' :: dotted path) = .sign '$' :: stepWords path := by
  unfold tokens
  rw [← tokensFrom_dotted hpath ('$' :: dotted path).length (Nat.lt_succ_self _)]
  refine tokensFrom_word _ rfl ?_
  cases path <;> rfl

/-! ### Steps by name -/

/-- A path of member names, from another path on. -/
def follow (p : Path) : List String → Path
  | [] => p
  | name :: more => follow (.child p (.fields [name])) more

/-- After a name stands nothing, or the dot before the next one. -/
theorem parseJoined_name (fuel : Nat) (n : String) {rest : List Token}
    (hrest : rest = [] ∨ ∃ r, rest = .sign '.' :: r) :
    parseJoined (fuel + 3) 3 (.name n :: rest) = .ok (.fields [n], rest) := by
  rcases hrest with rfl | ⟨r, rfl⟩ <;> rfl

theorem parseJoined_foreign (fuel : Nat) (rest : List Token) :
    parseJoined (fuel + 3) 3 (.foreign :: rest) = .error .foreign := rfl

theorem parseJoined_name_foreign (fuel : Nat) (n : String) (rest : List Token) :
    parseJoined (fuel + 3) 3 (.name n :: .foreign :: rest) = .error .foreign := rfl

theorem joinRest_dot (fuel : Nat) (p : Path) (r : List Token) :
    joinRest (fuel + 1) 1 p (.sign '.' :: r) =
      match parseJoined fuel 3 r with
      | .error e => .error e
      | .ok (q, r) => joinRest fuel 1 (.child p q) r := rfl

theorem stepWords_front (path : List String) :
    stepWords path = [] ∨ ∃ r, stepWords path = .sign '.' :: r := by
  cases path with
  | nil => exact .inl rfl
  | cons name more => exact .inr ⟨_, rfl⟩

/-- A name in ASCII is one word, and a name beyond it cannot be read as a step. -/
theorem stepWords_cons {name : String} (hname : PlainName name) (more : List String) :
    (inAscii name = true ∧ stepWords (name :: more) = .sign '.' :: .name name :: stepWords more)
      ∨ (inAscii name = false ∧ ∃ w ws, stepWords (name :: more) = .sign '.' :: w :: ws
        ∧ ∀ fuel, parseJoined (fuel + 3) 3 (w :: ws) = .error .foreign) := by
  rw [stepWords, nameWords]
  by_cases hascii : inAscii name = true
  · have hback : asciiBack name.toList = [] := asciiBack_eq_nil.mpr hascii
    have hfront := asciiFront_of_inAscii hascii
    refine .inl ⟨hascii, ?_⟩
    rw [if_pos hback, hfront, if_neg hname.nonempty, String.ofList_toList]
  · have hback : asciiBack name.toList ≠ [] := fun h => hascii (asciiBack_eq_nil.mp h)
    refine .inr ⟨Bool.eq_false_iff.mpr hascii, ?_⟩
    rw [if_neg hback]
    by_cases hfront : asciiFront name.toList = []
    · rw [if_pos hfront]
      exact ⟨.foreign, [], rfl, fun fuel => parseJoined_foreign fuel []⟩
    · rw [if_neg hfront]
      exact ⟨_, [.foreign], rfl, fun fuel => parseJoined_name_foreign fuel _ []⟩

/-- Steps by name are joined to the path from the left; a name beyond ASCII is refused. -/
theorem joinRest_stepWords {path : List String} (hpath : ∀ name ∈ path, PlainName name)
    (fuel : Nat) (p : Path) (hfuel : (stepWords path).length + 2 ≤ fuel) :
    joinRest fuel 1 p (stepWords path)
      = if path.all inAscii then .ok (p.follow path, []) else .error .foreign := by
  induction path generalizing fuel p with
  | nil =>
    obtain ⟨fuel, rfl⟩ : ∃ f, fuel = f + 1 := ⟨fuel - 1, by omega⟩
    rfl
  | cons name more ih =>
    obtain ⟨hname, hmore⟩ := List.forall_mem_cons.mp hpath
    rw [List.all_cons]
    -- either way the words go down by two at least, and the fuel by one only
    rcases stepWords_cons hname more with ⟨hascii, hwords⟩ | ⟨hascii, w, ws, hwords, hrefused⟩
    all_goals
      rw [hwords] at hfuel ⊢
      simp only [List.length_cons] at hfuel
      obtain ⟨fuel, rfl⟩ : ∃ f, fuel = f + 4 := ⟨fuel - 4, by omega⟩
      rw [joinRest_dot, hascii]
    · rw [parseJoined_name fuel name (stepWords_front more), Bool.true_and]
      exact ih hmore (fuel + 3) _ (by omega)
    · rw [hrefused fuel]
      rfl

theorem parseSum_root (fuel : Nat) {rest : List Token}
    (hrest : rest = [] ∨ ∃ r, rest = .sign '.' :: r) :
    parseSum (fuel + 4) (.sign '$' :: rest) =
      match joinRest (fuel + 2) 1 .root rest with
      | .error e => .error e
      | .ok (p, ts) => sumRest (fuel + 3) p ts := by
  rcases hrest with rfl | ⟨r, rfl⟩ <;> rfl

/-- A path of plain names is read as a step for each of them if they are all in ASCII. -/
theorem parse_dotted {path : List String} (hpath : ∀ name ∈ path, PlainName name) :
    parse ('$' :: dotted path)
      = if path.all inAscii then .ok (Path.root.follow path) else .error .foreign := by
  unfold parse
  extract_lets ts
  have hts : ts = .sign '$' :: stepWords path := tokens_dotted hpath
  have hfuel : ∃ fuel, 12 * ts.length + 12 = fuel + 4 ∧ (stepWords path).length + 2 ≤ fuel + 2 := by
    refine ⟨12 * ts.length + 8, rfl, ?_⟩
    rw [hts, List.length_cons]
    omega
  obtain ⟨fuel, hfuel, hroom⟩ := hfuel
  rw [hfuel, hts, parseSum_root fuel (stepWords_front path),
    joinRest_stepWords hpath (fuel + 2) .root hroom]
  cases path.all inAscii <;> rfl

end Path

end Gleaner.Json
