/-
  Gleaner/Json/Printer.lean
  =========================
  **Writing Json text.**  `compact` leaves out every blank, `spaced` has one after
  each comma and colon, and `indented` puts each member and item on a line of its
  own, two blanks further in at each level.  Only the quote, the backslash and
  control characters are escaped.
-/
import Gleaner.Json.Basic
import Gleaner.Text.Digits
import Gleaner.Decimal.Shortest

namespace Gleaner.Json

def escapeChar (c : Char) : List Char :=
  if c = '\x22' then ['\\', '\x22']
  else if c = '\\' then ['\\', '\\']
  else if c = '\n' then ['\\', 'n']
  else if c = '\r' then ['\\', 'r']
  else if c = '\t' then ['\\', 't']
  else if c = '\x08' then ['\\', 'b']
  else if c = '\x0c' then ['\\', 'f']
  else if c.toNat < 0x20 then '\\' :: 'u' :: Text.hexText 4 c.toNat
  else [c]

def quote (s : String) : List Char := '\x22' :: (s.toList.flatMap escapeChar ++ ['\x22'])

def atom : Json → List Char
  | .null => "null".toList
  | .bool true => "true".toList
  | .bool false => "false".toList
  | .int n => (toString n).toList
  | .real x => (x.text Binary64.dataTexts).toList
  | .str s => quote s
  | .arr _ => []
  | .obj _ => []

/-- What stands between the items and members of a text on one line, and what
    between a name and its value. -/
structure Separators where
  comma : List Char
  colon : List Char

def Separators.dense : Separators := ⟨[','], [':']⟩

def Separators.loose : Separators := ⟨[',', ' '], [':', ' ']⟩

mutual
def lineChars (sep : Separators) : Json → List Char
  | .arr items => '[' :: lineItems sep items
  | .obj members => '\x7b' :: lineMembers sep members
  | v => atom v
def lineItems (sep : Separators) : List Json → List Char
  | [] => [']']
  | [v] => lineChars sep v ++ [']']
  | v :: w :: vs => lineChars sep v ++ sep.comma ++ lineItems sep (w :: vs)
def lineMembers (sep : Separators) : List (String × Json) → List Char
  | [] => ['\x7d']
  | [(k, v)] => quote k ++ sep.colon ++ lineChars sep v ++ ['\x7d']
  | (k, v) :: m :: ms =>
      quote k ++ sep.colon ++ lineChars sep v ++ sep.comma ++ lineMembers sep (m :: ms)
end

def compact (v : Json) : String := String.ofList (lineChars .dense v)

def spaced (v : Json) : String := String.ofList (lineChars .loose v)

def newLine (level : Nat) : List Char := '\n' :: List.replicate (2 * level) ' '

mutual
/-- The text of a value over several lines; `level` is that of the line on which
    it starts. -/
def indentedChars (level : Nat) : Json → List Char
  | .arr [] => ['[', ']']
  | .arr (v :: vs) => '[' :: indentedItems (level + 1) (v :: vs)
  | .obj [] => ['{', '}']
  | .obj (m :: ms) => '{' :: indentedMembers (level + 1) (m :: ms)
  | v => atom v
def indentedItems (level : Nat) : List Json → List Char
  | [] => newLine (level - 1) ++ [']']
  | v :: vs =>
      newLine level ++ indentedChars level v ++ (if vs.isEmpty then [] else [','])
        ++ indentedItems level vs
def indentedMembers (level : Nat) : List (String × Json) → List Char
  | [] => newLine (level - 1) ++ ['}']
  | (k, v) :: ms =>
      newLine level ++ quote k ++ ':' :: ' ' :: indentedChars level v
        ++ (if ms.isEmpty then [] else [',']) ++ indentedMembers level ms
end

def indented (v : Json) : String := String.ofList (indentedChars 0 v)

end Gleaner.Json
