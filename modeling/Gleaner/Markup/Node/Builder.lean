/-
  Gleaner/Markup/Node/Builder.lean
  ================================
  **From tokens to a tree.**  An element stays open until an end tag of its name or
  of an element around it; no element closes another by itself.  Text is collected
  until something else comes, so neighbouring pieces make one node.
-/
import Gleaner.Markup.Node
import Gleaner.Markup.Token

namespace Gleaner.Markup

/-! ### Names with a meaning of their own -/

def voidNames : List String :=
  ["area", "base", "br", "col", "embed", "hr", "img", "input", "keygen", "link", "menuitem",
   "meta", "param", "source", "track", "wbr", "basefont", "bgsound", "command", "frame", "image",
   "isindex", "nextid", "spacer"]

def isVoid (name : String) : Bool := voidNames.contains name

def keepsBlanks (name : String) : Bool := name == "pre" || name == "textarea"

def holdsWords (element key : String) : Bool :=
  ["class", "accesskey", "dropzone"].contains key ||
  match element with
  | "a" | "link" => key == "rel" || key == "rev"
  | "td" | "th" => key == "headers"
  | "form" => key == "accept-charset"
  | "object" => key == "archive"
  | "area" => key == "rel"
  | "icon" => key == "sizes"
  | "iframe" => key == "sandbox"
  | "output" => key == "for"
  | _ => false

/-! ### Attributes -/

/-- Put a value under a key: a key that is there keeps its place. -/
def putAttribute (key value : String) : List (String × String) → List (String × String)
  | [] => [(key, value)]
  | (k, v) :: as => if k = key then (k, value) :: as else (k, v) :: putAttribute key value as

/-- The attributes of an element: the last value of each key counts, and the words of
    a list stand one space apart. -/
def settledAttributes (element : String) (raw : List (String × String)) :
    List (String × String) :=
  (raw.foldl (fun as (k, v) => putAttribute k v as) []).map fun (k, v) =>
    (k, if holdsWords element k then Text.oneLine v else v)

/-! ### Open elements -/

/-- An element that is not closed yet, with its content in reverse. -/
structure OpenElement where
  name : String
  attributes : List (String × String)
  content : List Node

/-- A tree in the making: the open elements, the innermost first, around them the
    document; the text collected since the last node, in reverse; and the elements
    without content whose end tag, should one come, has no effect. -/
structure Growth where
  openElements : List OpenElement
  document : List Node
  pending : Option (List Char)
  settled : List String

namespace Growth

def empty : Growth := ⟨[], [], none, []⟩

def add (g : Growth) (n : Node) : Growth :=
  match g.openElements with
  | [] => { g with document := n :: g.document }
  | e :: es => { g with openElements := { e with content := n :: e.content } :: es }

def collect (g : Growth) (s : List Char) : Growth :=
  { g with pending := some (s.reverseAux (g.pending.getD [])) }

def textKind (g : Growth) : TextKind :=
  ((g.openElements.findSome? fun e => containedKind? e.name)).getD .plain

/-- The text as it is kept: text of blanks alone is a line end or a space, outside
    elements that keep their blanks. -/
def keptText (g : Growth) (s : List Char) : List Char :=
  if s.all Text.isMarkupBlank && !g.openElements.any (keepsBlanks ·.name) then
    if s.contains '\n' then ['\n'] else [' ']
  else s

def settle (g : Growth) (kind : Option TextKind) : Growth :=
  match g.pending with
  | none => g
  | some s =>
      { g with pending := none }.add
        (.text (kind.getD g.textKind) (String.ofList (g.keptText s.reverse)))

def special (g : Growth) (kind : TextKind) (s : List Char) : Growth :=
  ((g.settle none).collect s).settle (some kind)

def closeInnermost (g : Growth) : Growth :=
  match g.openElements with
  | [] => g
  | e :: es =>
      { g with openElements := es }.add (.element e.name e.attributes e.content.reverse)

def closeMany : Nat → Growth → Growth
  | 0, g => g
  | count + 1, g => closeMany count g.closeInnermost

/-- Close the innermost open element of a name and all that are inside it. -/
def close (g : Growth) (name : String) : Growth :=
  let g := g.settle none
  match g.openElements.findIdx? (·.name == name) with
  | none => g
  | some i => closeMany (i + 1) g

def openElement (g : Growth) (name : String) (attributes : List (String × String)) : Growth :=
  let g := g.settle none
  { g with openElements := ⟨name, settledAttributes name attributes, []⟩ :: g.openElements }

/-- The text of a marked section after its keyword, if the section is one of
    character data. -/
def characterData? (s : List Char) : Option (List Char) :=
  if (s.take 6).map Char.toUpper = "CDATA[".toList then some (s.drop 6) else none

def take (g : Growth) : Token → Growth
  | .text s => g.collect s
  | .startTag name attributes closed =>
      let g := g.openElement name attributes
      if closed then g.close name
      else if isVoid name then
        let g := g.close name
        { g with settled := name :: g.settled }
      else g
  | .endTag name =>
      if g.settled.contains name then { g with settled := g.settled.erase name } else g.close name
  | .comment s => g.special .comment s
  | .doctype s => g.special .doctype s
  | .instruction s => g.special .instruction s
  | .marked s =>
      match characterData? s with
      | some data => g.special .marked data
      | none => g.special .declaration s

def finish (g : Growth) : Node :=
  let g := g.settle none
  .element documentName [] (closeMany g.openElements.length g).document.reverse

end Growth

def Node.ofTokens (ts : List Token) : Node := (ts.foldl Growth.take Growth.empty).finish

end Gleaner.Markup
