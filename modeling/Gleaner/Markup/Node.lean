/-
  Gleaner/Markup/Node.lean
  ========================
  **Document trees.**  A node is an element or a piece of text.  Text is of a kind:
  running text, text inside elements that are not shown, or one of the constructs
  that hold no text at all, such as comments.  A document is an element without a
  tag of its own.
-/
import Gleaner.Text.Blank

namespace Gleaner.Markup

inductive TextKind where
  | plain
  | script
  | style
  | template
  /-- Text above a ruby base. -/
  | gloss
  | glossMark
  | comment
  | marked
  | instruction
  | declaration
  | doctype
deriving DecidableEq, Repr

inductive Node where
  | text (kind : TextKind) (content : String)
  | element (name : String) (attributes : List (String × String)) (children : List Node)
deriving Repr, Inhabited

def documentName : String := "[document]"

/-- The kind of the text in elements of a name, for elements whose text is no
    running text. -/
def containedKind? : String → Option TextKind
  | "script" => some .script
  | "style" => some .style
  | "template" => some .template
  | "rt" => some .gloss
  | "rp" => some .glossMark
  | _ => none

namespace TextKind

/-- The text is written with marks around it and is no content. -/
def isMarked : TextKind → Bool
  | .comment | .marked | .instruction | .declaration | .doctype => true
  | _ => false

/-- The text counts as content of an element of the given name.  Text of a kind of
    its own counts only in elements of that kind. -/
def countsIn (name : String) (kind : TextKind) : Bool :=
  match containedKind? name with
  | some k => kind == k
  | none => kind == .plain || kind == .marked

end TextKind

namespace Node

def isElement : Node → Bool
  | .element .. => true
  | .text .. => false

/-- The name of an element; text has none. -/
def name : Node → String
  | .element n _ _ => n
  | .text .. => ""

def attributes : Node → List (String × String)
  | .element _ as _ => as
  | .text .. => []

def children : Node → List Node
  | .element _ _ cs => cs
  | .text .. => []

def attribute? (n : Node) (key : String) : Option String := n.attributes.lookup key

mutual

/-- The pieces of text in a node, in order, of the kinds that `p` accepts. -/
def pieces (p : TextKind → Bool) : Node → List String
  | .text kind content => if p kind then [content] else []
  | .element _ _ cs => piecesOfAll p cs

def piecesOfAll (p : TextKind → Bool) : List Node → List String
  | [] => []
  | n :: ns => pieces p n ++ piecesOfAll p ns

end

/-- All text in an element that counts as its content. -/
def fullText (n : Node) : String := String.join (pieces (TextKind.countsIn n.name) n)

def ownText (n : Node) : String :=
  String.join (n.children.filterMap fun
    | .text kind content => if kind.isMarked then none else some content
    | .element .. => none)

mutual

/-- The first element of a name in a node, the node itself first. -/
def firstNamed? (key : String) : Node → Option Node
  | .text .. => none
  | .element n as cs => if n == key then some (.element n as cs) else firstNamedOfAll? key cs

def firstNamedOfAll? (key : String) : List Node → Option Node
  | [] => none
  | n :: ns =>
      match firstNamed? key n with
      | some found => some found
      | none => firstNamedOfAll? key ns

end

end Node

end Gleaner.Markup
