/-
  Gleaner/Markup/Reference.lean
  =============================
  **Character references.**  A reference names a character by a word or by its
  number.  Running text and attribute values follow different rules: in text a
  number is nearly always taken as it is, in a value the control characters and
  the unassigned ends of the planes are refused, and a word may be cut short to
  the longest name it starts with.
-/
import Std.Data.HashMap
import Gleaner.Fault
import Gleaner.Text.Digits
import Gleaner.Markup.Reference.Names

namespace Gleaner.Markup

/-! ### Names -/

/-- The characters of code points in hexadecimal, with `+` between them. -/
def charsOfCodes (codes : String) : List Char :=
  (Text.runsBy (· == '+') codes.toList []).map fun code => Char.ofNat (Text.hexNumber code)

def pairsOfTable : List String → List (String × List Char)
  | name :: codes :: rest => (name, charsOfCodes codes) :: pairsOfTable rest
  | _ => []

def namedChars : Std.HashMap String (List Char) :=
  Std.HashMap.ofList (pairsOfTable (nameTable.flatMap Text.words))

/-- The names that count without a semicolon, with their characters. -/
def openNamedChars : Std.HashMap String (List Char) :=
  Std.HashMap.ofList ((openNames.flatMap Text.words).filterMap fun name =>
    namedChars[name]?.map ((name, ·)))

/-! ### Numbers -/

/-- The characters that the numbers 0x80 to 0x9f mean in documents written on a
    widespread family of machines; a number without such a character stands for
    itself. -/
def westernChars : List Nat :=
  [0x20AC, 0x81, 0x201A, 0x192, 0x201E, 0x2026, 0x2020, 0x2021, 0x2C6, 0x2030, 0x160, 0x2039,
   0x152, 0x8D, 0x17D, 0x8F, 0x90, 0x2018, 0x2019, 0x201C, 0x201D, 0x2022, 0x2013, 0x2014,
   0x2DC, 0x2122, 0x161, 0x203A, 0x153, 0x9D, 0x17E, 0x178]

def westernChar (n : Nat) : Char := Char.ofNat ((westernChars[n - 0x80]?).getD n)

/-- The number is no character: half of a pair, or beyond the last plane. -/
def outsideUnicode (n : Nat) : Bool := (0xD800 ≤ n && n ≤ 0xDFFF) || 0x10FFFF < n

def replacement : Char := '\uFFFD'

/-- The character of a numeric reference in running text; `single` reads one byte
    in the encoding of the document. -/
def charOfNumber (single : Nat → Option Char) (n : Nat) : Char :=
  if n = 0 || outsideUnicode n then replacement
  else if n < 0x80 || 0xFF < n then Char.ofNat n
  else if 0x9F < n then Char.ofNat n
  else if westernChar n ≠ Char.ofNat n then westernChar n
  else (single n).getD (Char.ofNat n)

/-- A control character other than the blanks, or a code point that is set aside
    for no character. -/
def isRefusedNumber (n : Nat) : Bool :=
  (1 ≤ n && n ≤ 8) || n == 0xB || (0xE ≤ n && n ≤ 0x1F) || (0x7F ≤ n && n ≤ 0x9F)
    || (0xFDD0 ≤ n && n ≤ 0xFDEF) || (0xFFFE ≤ n && 0xFFFE ≤ n % 0x10000)

def valueOfNumber (n : Nat) : List Char :=
  if n = 0 then [replacement]
  else if 0x80 ≤ n && n ≤ 0x9F then [westernChar n]
  else if outsideUnicode n then [replacement]
  else if isRefusedNumber n then []
  else [Char.ofNat n]

/-- The number that decimal digits write; too many digits are refused. -/
def decimalNumber (digits : List Char) : Except Fault Nat :=
  if Text.maxDigits < digits.length then .error (.badValue (Text.digitLimitText digits.length))
  else .ok (Text.decimalValue digits)

/-! ### References in attribute values -/

def isValueNameChar (c : Char) : Bool :=
  !(c == '\t' || c == '\n' || c == '\x0c' || c == ' ' || c == '<' || c == '&' || c == '#'
    || c == ';')

/-- The longest beginning of `name` with at most `size` characters that is a name
    by itself, put in front of what is left of the word. -/
def longestName (word : List Char) : Nat → Option (List Char)
  | 0 => none
  | 1 => none
  | size + 2 =>
      match openNamedChars[String.ofList (word.take (size + 2))]? with
      | some cs => some (cs ++ word.drop (size + 2))
      | none => longestName word (size + 1)

/-- What a word after `&` stands for; `closed` when a semicolon follows it, which
    then belongs to the word. -/
def valueOfWord (word : List Char) (closed : Bool) : List Char :=
  let whole := if closed then word ++ [';'] else word
  let known :=
    if closed then namedChars[String.ofList word]? else openNamedChars[String.ofList word]?
  match known with
  | some cs => cs
  | none =>
      match longestName whole (whole.length - 1) with
      | some cs => cs
      | none => '&' :: whole

def semicolon : List Char → Bool × List Char
  | ';' :: r => (true, r)
  | r => (false, r)

/-- What the reference at the front of `s`, which follows an ampersand, stands for,
    and the rest; without a reference the ampersand stands for itself. -/
def valueReference (s : List Char) : Except Fault (List Char × List Char) :=
  match s with
  | '#' :: r =>
      let digits := r.takeWhile Text.asciiDigit
      let hex := (r.drop 1).takeWhile Text.isHex
      if !digits.isEmpty then
        (decimalNumber digits).map fun n =>
          (valueOfNumber n, (semicolon (r.drop digits.length)).2)
      else if (r.head? == some 'x' || r.head? == some 'X') && !hex.isEmpty then
        .ok (valueOfNumber (Text.hexNumber hex), (semicolon (r.drop (hex.length + 1))).2)
      else .ok (['&'], s)
  | _ =>
      let word := (s.take 32).takeWhile isValueNameChar
      if word.isEmpty then .ok (['&'], s)
      else
        let (closed, rest) := semicolon (s.drop word.length)
        .ok (valueOfWord word closed, rest)

theorem semicolon_length (s : List Char) : (semicolon s).2.length ≤ s.length := by
  unfold semicolon
  split <;> simp

/-- A reference is not longer than what it takes from the text. -/
theorem valueReference_length {s out rest : List Char} (h : valueReference s = .ok (out, rest)) :
    rest.length ≤ s.length := by
  unfold valueReference at h
  split at h
  · rename_i r
    simp only at h
    split at h
    · cases hn : decimalNumber (r.takeWhile Text.asciiDigit) with
      | error e => rw [hn] at h; cases h
      | ok n =>
        rw [hn] at h
        simp only [Except.map, Except.ok.injEq, Prod.mk.injEq] at h
        rw [← h.2]
        have := semicolon_length (r.drop (r.takeWhile Text.asciiDigit).length)
        simp only [List.length_drop, List.length_cons] at *
        omega
    · split at h
      · simp only [Except.ok.injEq, Prod.mk.injEq] at h
        rw [← h.2]
        have := semicolon_length (r.drop (((r.drop 1).takeWhile Text.isHex).length + 1))
        simp only [List.length_drop, List.length_cons] at *
        omega
      · simp only [Except.ok.injEq, Prod.mk.injEq] at h
        exact Nat.le_of_eq (congrArg List.length h.2.symm)
  · simp only at h
    split at h
    · simp only [Except.ok.injEq, Prod.mk.injEq] at h
      exact Nat.le_of_eq (congrArg List.length h.2.symm)
    · simp only [Except.ok.injEq, Prod.mk.injEq] at h
      rw [← h.2]
      have := semicolon_length (s.drop ((s.take 32).takeWhile isValueNameChar).length)
      simp only [List.length_drop] at this
      omega

def resolveValue : List Char → Except Fault (List Char)
  | [] => .ok []
  | '&' :: s =>
      match _h : valueReference s with
      | .error e => .error e
      | .ok (out, rest) => (resolveValue rest).map (out ++ ·)
  | c :: s => (resolveValue s).map (c :: ·)
termination_by s => s.length
decreasing_by
  · have := valueReference_length _h
    simp only [List.length_cons]
    omega
  · simp

end Gleaner.Markup
