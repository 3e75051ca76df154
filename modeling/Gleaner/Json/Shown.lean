/-
  Gleaner/Json/Shown.lean
  =======================
  **Values shown as text.**  `stringify` is the text a reader of books sees: the
  texts of a list one per line, empty ones left out.  `shown` is the text of a
  header value: words for truth values, and lists and objects with their strings
  quoted.  A whole number that takes too many digits to write has no text, and
  neither has a value with such a number in it (`asText`).
-/
import Gleaner.Fault
import Gleaner.Json.Printer

namespace Gleaner.Json

mutual
/-- A value as text: a list gives one line per text that is not empty, an object
    its shortest Json text. -/
def stringify : Json → String
  | .null => ""
  | .str s => s
  | .bool b => if b then "true" else "false"
  | .int n => toString n
  | .real x => x.text Binary64.shownTexts
  | .arr items => "\n".intercalate ((stringifyAll items).filter (· ≠ ""))
  | .obj members => compact (.obj members)
def stringifyAll : List Json → List String
  | [] => []
  | v :: vs => stringify v :: stringifyAll vs
end

mutual
/-- A value inside a list or an object, its strings quoted. -/
def inspect : Json → String
  | .null => "None"
  | .str s => Text.quoted s
  | .bool b => if b then "True" else "False"
  | .int n => toString n
  | .real x => x.text Binary64.shownTexts
  | .arr items => "[" ++ ", ".intercalate (inspectItems items) ++ "]"
  | .obj members => "\x7b" ++ ", ".intercalate (inspectMembers members) ++ "\x7d"
def inspectItems : List Json → List String
  | [] => []
  | v :: vs => inspect v :: inspectItems vs
def inspectMembers : List (String × Json) → List String
  | [] => []
  | (k, v) :: ms => (Text.quoted k ++ ": " ++ inspect v) :: inspectMembers ms
end

/-- A value as the text of a header: a string as it is, all else as `inspect`
    shows it. -/
def shown : Json → String
  | .str s => s
  | v => inspect v

mutual
/-- No whole number in a value takes too many digits to write. -/
def isShort : Json → Bool
  | .int n => (Nat.toDigits 10 n.natAbs).length ≤ Text.maxDigits
  | .arr items => areShort items
  | .obj members => membersShort members
  | _ => true
def areShort : List Json → Bool
  | [] => true
  | v :: vs => isShort v && areShort vs
def membersShort : List (String × Json) → Bool
  | [] => true
  | (_, v) :: ms => isShort v && membersShort ms
end

def asText (v : Json) : Except Fault String :=
  if v.isShort then .ok v.stringify else .error (.badValue Text.writingLimitText)

def kindName : Json → String
  | .null => "NoneType"
  | .bool _ => "bool"
  | .int _ => "int"
  | .real _ => "float"
  | .str _ => "str"
  | .arr _ => "list"
  | .obj _ => "dict"

end Gleaner.Json
