/-
  Gleaner/Text/Quoted.lean
  ========================
  **Quoted text.**  Rules and error messages are shown in trace lines between
  quotes: single ones, or double ones when the text holds a single quote and no
  double quote.  The quote in use and the backslash are escaped, and so is every
  character that does not print.
-/
import Gleaner.Text.Digits
import Gleaner.Text.Printable

namespace Gleaner.Text

/-- The quote around a text: double only if that saves escaping. -/
def quoteFor (s : List Char) : Char :=
  if s.contains '\x27' && !s.contains '\x22' then '\x22' else '\x27'

def quotedChar (q c : Char) : List Char :=
  if c = q || c = '\\' then ['\\', c]
  else if c = '\n' then ['\\', 'n']
  else if c = '\r' then ['\\', 'r']
  else if c = '\t' then ['\\', 't']
  else if isPrintable c then [c]
  else if c.toNat < 0x100 then '\\' :: 'x' :: hexText 2 c.toNat
  else if c.toNat < 0x10000 then '\\' :: 'u' :: hexText 4 c.toNat
  else '\\' :: 'U' :: hexText 8 c.toNat

def quotedChars (s : List Char) : List Char :=
  let q := quoteFor s
  q :: s.flatMap (quotedChar q) ++ [q]

def quoted (s : String) : String := String.ofList (quotedChars s.toList)

def quotedOption : Option String → String
  | none => "None"
  | some s => quoted s

end Gleaner.Text
