/-
  Gleaner/Markup/Node/Printer.lean
  ================================
  **Trees as text.**  Attributes are written in the order of their names.  Only what
  would otherwise be read as markup is escaped.  A declared encoding is written as
  the one in which the text will be stored, UTF-8.
-/
import Gleaner.Markup.Node.Builder
import Gleaner.Text.Case

namespace Gleaner.Markup

def escapeChar : Char → List Char
  | '&' => "&amp;".toList
  | '<' => "&lt;".toList
  | '>' => "&gt;".toList
  | c => [c]

def escape (s : String) : String := String.ofList (s.toList.flatMap escapeChar)

/-- An attribute value in quotes: double ones, or single ones around a value that
    holds double ones only. -/
def quotedValue (s : String) : String :=
  let cs := s.toList
  if !cs.contains '"' then "\"" ++ s ++ "\""
  else if cs.contains '\x27' then
    "\"" ++ String.ofList (cs.flatMap fun c => if c = '"' then "&quot;".toList else [c]) ++ "\""
  else "'" ++ s ++ "'"

def storedEncoding : String := "utf-8"

def encodingSign : List Char := "charset=".toList

/-- A description of a content type with the stored encoding in the place of every
    other; `fresh` at the start of a line. -/
def withStoredEncoding : Nat → Bool → List Char → List Char
  | fuel + 1, fresh, c :: s =>
      let put (rest : List Char) : List Char :=
        encodingSign ++ storedEncoding.toList
          ++ withStoredEncoding fuel false (rest.dropWhile (· ≠ ';'))
      if fresh && encodingSign.isPrefixOf (c :: s) then put ((c :: s).drop encodingSign.length)
      else if (Text.isBlank c || c == ';') && encodingSign.isPrefixOf s then
        c :: put (s.drop encodingSign.length)
      else c :: withStoredEncoding fuel (c == '\n') s
  | _, _, s => s

def writtenAttributes (name : String) (attributes : List (String × String)) :
    List (String × String) :=
  if name ≠ "meta" then attributes
  else if (attributes.lookup "charset").isSome then
    putAttribute "charset" storedEncoding attributes
  else
    match attributes.lookup "content", attributes.lookup "http-equiv" with
    | some content, some subject =>
        if Text.lower subject = "content-type" then
          let cs := content.toList
          putAttribute "content" (String.ofList (withStoredEncoding (cs.length + 1) true cs))
            attributes
        else attributes
    | _, _ => attributes

def tagHead (name : String) (attributes : List (String × String)) : String :=
  let sorted := (writtenAttributes name attributes).mergeSort fun a b => a.1 ≤ b.1
  "<" ++ name
    ++ String.join (sorted.map fun (k, v) => " " ++ k ++ "=" ++ quotedValue (escape v))

def renderText (parent : String) (kind : TextKind) (s : String) : String :=
  match kind with
  | .comment => "<!--" ++ s ++ "-->"
  | .marked => "<![CDATA[" ++ s ++ "]]>"
  | .instruction => "<?" ++ s ++ ">"
  | .declaration => "<?" ++ s ++ "?>"
  | .doctype => "<!DOCTYPE " ++ s ++ ">\n"
  | _ => if parent == "script" || parent == "style" then s else escape s

namespace Node

mutual

/-- A node as text, inside an element of the name `parent`. -/
def renderIn (parent : String) : Node → String
  | .text kind s => renderText parent kind s
  | .element name attributes cs =>
      if name == documentName then renderAll name cs
      else if cs.isEmpty && isVoid name then tagHead name attributes ++ "/>"
      else tagHead name attributes ++ ">" ++ renderAll name cs ++ "</" ++ name ++ ">"

def renderAll (parent : String) : List Node → String
  | [] => ""
  | n :: ns => renderIn parent n ++ renderAll parent ns

end

def render (n : Node) : String := renderIn documentName n

def renderContent (n : Node) : String := renderAll n.name n.children

end Node

end Gleaner.Markup
