/-
  Gleaner/Json/Reader.lean
  ========================
  **Reading Json text.**  The reader takes a value from the front of the text and
  returns what follows.  A failure keeps the rest of the text at which it was
  noticed, so that its place can be told afterwards.  Beside the standard
  notation, `NaN`, `Infinity` and `-Infinity` are read as numbers.

  `fuel` bounds the depth of the recursion; the length of the text suffices.
-/
import Gleaner.Json.Basic
import Gleaner.Text.Digits
import Gleaner.Text.Split
import Gleaner.Decimal.Read

namespace Gleaner.Json

/-! ### Failures -/

inductive Problem where
  | byteOrderMark
  | expectingValue
  | expectingName
  | expectingColon
  | expectingComma
  | unterminatedString
  | controlCharacter
  | invalidEscape
  | invalidUnicodeEscape
  | extraData
  /-- A whole number with more digits than `Text.maxDigits`. -/
  | tooManyDigits (digits : Nat)
deriving DecidableEq, Repr

/-- A problem and the rest of the text, from the place where it shows. -/
structure Failure where
  problem : Problem
  rest : List Char
deriving DecidableEq, Repr

def Problem.describe : Problem → String
  | .byteOrderMark => "Unexpected UTF-8 BOM (decode using utf-8-sig)"
  | .expectingValue => "Expecting value"
  | .expectingName => "Expecting property name enclosed in double quotes"
  | .expectingColon => "Expecting ':' delimiter"
  | .expectingComma => "Expecting ',' delimiter"
  | .unterminatedString => "Unterminated string starting at"
  | .controlCharacter => "Invalid control character at"
  | .invalidEscape => "Invalid \\escape"
  | .invalidUnicodeEscape => "Invalid \\uXXXX escape"
  | .extraData => "Extra data"
  | .tooManyDigits n => Text.digitLimitText n

/-- Line, column and index of the place after `before`; lines and columns count
    from one. -/
def place (before : List Char) : Nat × Nat × Nat :=
  let line := before.count '\n' + 1
  let column := (before.reverse.takeWhile (· ≠ '\n')).length + 1
  (line, column, before.length)

def Failure.message (f : Failure) (source : List Char) : String :=
  match f.problem with
  | .tooManyDigits n => Text.digitLimitText n
  | p =>
      let (line, column, index) := place (source.take (source.length - f.rest.length))
      p.describe ++ ": line " ++ toString line ++ " column " ++ toString column
        ++ " (char " ++ toString index ++ ")"

abbrev Reading (α : Type) := Except Failure (α × List Char)

def failAt {α : Type} (p : Problem) (rest : List Char) : Except Failure α := .error ⟨p, rest⟩

/-! ### Strings -/

def unescape? : Char → Option Char
  | '\x22' => some '\x22'
  | '\\' => some '\\'
  | '/' => some '/'
  | 'b' => some '\x08'
  | 'f' => some '\x0c'
  | 'n' => some '\n'
  | 'r' => some '\r'
  | 't' => some '\t'
  | _ => none

def fourHex? (a b c d : Char) : Option Nat :=
  if Text.isHex a && Text.isHex b && Text.isHex c && Text.isHex d then
    some (Text.hexNumber [a, b, c, d])
  else none

/-- A code point as a character; half of a pair alone is none. -/
def unitChar (n : Nat) : Char := if h : n.isValidChar then Char.ofNatAux n h else '\uFFFD'

def isHighHalf (n : Nat) : Bool := 0xD800 ≤ n && n < 0xDC00

def isLowHalf (n : Nat) : Bool := 0xDC00 ≤ n && n < 0xE000

def joinHalves (high low : Nat) : Nat := 0x10000 + (high - 0xD800) * 0x400 + (low - 0xDC00)

/-- The rest of a string after its opening quote; `start` is the text from that
    quote on and `acc` what was read so far, in reverse. -/
def readText (start : List Char) : List Char → List Char → Reading String
  | _, [] => failAt .unterminatedString start
  | acc, '\\' :: 'u' :: a :: b :: c :: d :: '\\' :: 'u' :: e :: f :: g :: h :: x :: s =>
      match fourHex? a b c d with
      | none => failAt .invalidUnicodeEscape
          ('u' :: a :: b :: c :: d :: '\\' :: 'u' :: e :: f :: g :: h :: x :: s)
      | some n =>
          if isHighHalf n then
            match fourHex? e f g h with
            | none => failAt .invalidUnicodeEscape ('u' :: e :: f :: g :: h :: x :: s)
            | some m =>
                if isLowHalf m then readText start (unitChar (joinHalves n m) :: acc) (x :: s)
                else readText start (unitChar n :: acc) ('\\' :: 'u' :: e :: f :: g :: h :: x :: s)
          else readText start (unitChar n :: acc) ('\\' :: 'u' :: e :: f :: g :: h :: x :: s)
  | acc, '\\' :: 'u' :: a :: b :: c :: d :: x :: s =>
      match fourHex? a b c d with
      | none => failAt .invalidUnicodeEscape ('u' :: a :: b :: c :: d :: x :: s)
      | some n => readText start (unitChar n :: acc) (x :: s)
  | _, '\\' :: 'u' :: s => failAt .invalidUnicodeEscape ('u' :: s)
  | _, ['\\'] => failAt .unterminatedString start
  | acc, '\\' :: c :: s =>
      match unescape? c with
      | none => failAt .invalidEscape ('\\' :: c :: s)
      | some d => readText start (d :: acc) s
  | acc, c :: s =>
      if c = '\x22' then .ok (String.ofList acc.reverse, s)
      else if c.toNat < 0x20 then failAt .controlCharacter (c :: s)
      else readText start (c :: acc) s
termination_by _ s => s.length

theorem readText_nil (start acc : List Char) :
    readText start acc [] = failAt .unterminatedString start := by
  rw [readText]

/-! ### Numbers -/

/-- The digits of the whole part of a number: one zero, or a run that does not
    start with zero. -/
def wholeDigits? (s : List Char) : Option (List Char × List Char) :=
  match s with
  | '0' :: r => some (['0'], r)
  | c :: r =>
      if Text.asciiDigit c then some (c :: r.takeWhile Text.asciiDigit, r.dropWhile Text.asciiDigit)
      else none
  | [] => none

def fractionDigits (s : List Char) : List Char × List Char :=
  match s with
  | '.' :: c :: r =>
      if Text.asciiDigit c then (c :: r.takeWhile Text.asciiDigit, r.dropWhile Text.asciiDigit)
      else ([], s)
  | _ => ([], s)

def exponentDigits? (s : List Char) : Option (Bool × List Char × List Char) :=
  match s with
  | c :: r =>
      if c = 'e' ∨ c = 'E' then
        let (negative, t) := match r with
          | '-' :: t => (true, t)
          | '+' :: t => (false, t)
          | t => (false, t)
        let ds := t.takeWhile Text.asciiDigit
        if ds.isEmpty then none else some (negative, ds, t.dropWhile Text.asciiDigit)
      else none
  | [] => none

/-- A number from the front of `s`, after its sign; `start` is the text from the
    sign on. -/
def readMagnitude (negative : Bool) (start s : List Char) : Reading Json :=
  match wholeDigits? s with
  | none => failAt .expectingValue start
  | some (whole, afterWhole) =>
      let (fraction, afterFraction) := fractionDigits afterWhole
      match exponentDigits? afterFraction with
      | some (en, e, rest) =>
          .ok (.real (Binary64.ofParts negative whole fraction en e), rest)
      | none =>
          if fraction.isEmpty then
            if Text.maxDigits < whole.length then failAt (.tooManyDigits whole.length) start
            else .ok (.int (Binary64.signed negative (Text.decimalValue whole)), afterFraction)
          else .ok (.real (Binary64.ofParts negative whole fraction false []), afterFraction)

def literals : List (String × Json) :=
  [("null", .null), ("true", .bool true), ("false", .bool false), ("NaN", .real .nan),
   ("Infinity", .real (.infinite false)), ("-Infinity", .real (.infinite true))]

def readLiteral? (s : List Char) : List (String × Json) → Option (Json × List Char)
  | [] => none
  | (word, v) :: more =>
      match Text.dropFront? word.toList s with
      | some rest => some (v, rest)
      | none => readLiteral? s more

def readAtom (s : List Char) : Reading Json :=
  match readLiteral? s literals with
  | some r => .ok r
  | none =>
      match s with
      | '-' :: t => readMagnitude true s t
      | _ => readMagnitude false s s

/-! ### Values -/

def isSpace (c : Char) : Bool := c == ' ' || c == '\t' || c == '\n' || c == '\r'

def skipSpace (s : List Char) : List Char := s.dropWhile isSpace

mutual
def readValue : Nat → List Char → Reading Json
  | 0, s => failAt .expectingValue s
  | fuel + 1, s =>
      match s with
      | '\x22' :: r => (readText s [] r).map fun (t, rest) => (.str t, rest)
      | '[' :: r =>
          match skipSpace r with
          | ']' :: rest => .ok (.arr [], rest)
          | t => readItems fuel [] t
      | '{' :: r =>
          match skipSpace r with
          | '}' :: rest => .ok (.obj [], rest)
          | t => readMembers fuel [] t
      | s => readAtom s
/-- The items of an array, the first of them at the front; `acc` are those read
    so far, in reverse. -/
def readItems : Nat → List Json → List Char → Reading Json
  | 0, _, s => failAt .expectingValue s
  | fuel + 1, acc, s =>
      match readValue fuel s with
      | .error e => .error e
      | .ok (v, r) =>
          match skipSpace r with
          | ']' :: rest => .ok (.arr (v :: acc).reverse, rest)
          | ',' :: t => readItems fuel (v :: acc) (skipSpace t)
          | t => failAt .expectingComma t
def readMembers : Nat → Members → List Char → Reading Json
  | 0, _, s => failAt .expectingValue s
  | fuel + 1, acc, s =>
      match s with
      | '\x22' :: r =>
          match readText s [] r with
          | .error e => .error e
          | .ok (name, r) =>
              match skipSpace r with
              | ':' :: t =>
                  match readValue fuel (skipSpace t) with
                  | .error e => .error e
                  | .ok (v, r) =>
                      match skipSpace r with
                      | '}' :: rest => .ok (.obj (put name v acc), rest)
                      | ',' :: t => readMembers fuel (put name v acc) (skipSpace t)
                      | t => failAt .expectingComma t
              | t => failAt .expectingColon t
      | t => failAt .expectingName t
end

def readDocument (s : List Char) : Except Failure Json :=
  match readValue (2 * s.length + 2) (skipSpace s) with
  | .error e => .error e
  | .ok (v, r) =>
      match skipSpace r with
      | [] => .ok v
      | t => failAt .extraData t

/-- Read a text that holds one value; it must not start with a byte order mark. -/
def parse (s : List Char) : Except Failure Json :=
  match s with
  | '\uFEFF' :: _ => failAt .byteOrderMark s
  | _ => readDocument s

end Gleaner.Json
