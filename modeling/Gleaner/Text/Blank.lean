/-
  Gleaner/Text/Blank.lean
  =======================
  **Blank characters, trimming and words.**  One set of blank characters serves
  every place where text is trimmed or cut into words: the separators and spaces
  of Unicode together with the control characters that act as spaces.  Markup
  and byte streams know smaller sets, which are kept apart below.

  All functions work on `List Char`; the versions on `String` only convert.
-/

namespace Gleaner.Text

/-- The blank characters: tabs and line ends, the four information separators,
    the Unicode spaces, and the line and paragraph separators. -/
def isBlank (c : Char) : Bool :=
  let n := c.toNat
  (9 ≤ n && n ≤ 13) || (28 ≤ n && n ≤ 32) || n == 0x85 || n == 0xA0 || n == 0x1680
    || (0x2000 ≤ n && n ≤ 0x200A) || n == 0x2028 || n == 0x2029 || n == 0x202F
    || n == 0x205F || n == 0x3000

/-- The blanks of markup: space, tab, line feed, form feed, carriage return. -/
def isMarkupBlank (c : Char) : Bool :=
  c == ' ' || c == '\t' || c == '\n' || c == '\x0c' || c == '\r'

/-- The blanks of a byte stream: the markup blanks and the vertical tab. -/
def isByteBlank (b : UInt8) : Bool :=
  b == 32 || (9 ≤ b && b ≤ 13)

/-- The blanks around a number: all but the information separators. -/
def isNumberBlank (c : Char) : Bool := isBlank c && !(28 ≤ c.toNat && c.toNat ≤ 31)

def trimBy (p : Char → Bool) (s : List Char) : List Char :=
  ((s.dropWhile p).reverse.dropWhile p).reverse

def trimChars (s : List Char) : List Char := trimBy isBlank s

def trim (s : String) : String := String.ofList (trimChars s.toList)

def allBlank (s : String) : Bool := s.toList.all isBlank

/-- The maximal runs of characters that do not satisfy `p`; `run` is the run
    being read, in reverse. -/
def runsBy (p : Char → Bool) : List Char → List Char → List (List Char)
  | [], run => if run.isEmpty then [] else [run.reverse]
  | c :: s, run =>
      if p c then
        if run.isEmpty then runsBy p s [] else run.reverse :: runsBy p s []
      else runsBy p s (c :: run)

def words (s : String) : List String := (runsBy isBlank s.toList []).map String.ofList

/-- The text on one line: its words, one space apart. -/
def oneLine (s : String) : String := " ".intercalate (words s)

/-- At most `limit` characters of `s`, with an ellipsis when some were cut.  A
    negative limit counts from the end. -/
def clip (s : String) (limit : Int) : String :=
  let cs := s.toList
  if (cs.length : Int) ≤ limit then s
  else if limit < 0 then String.ofList (cs.take (cs.length - limit.natAbs)) ++ "…"
  else String.ofList (cs.take limit.toNat) ++ "…"

end Gleaner.Text
