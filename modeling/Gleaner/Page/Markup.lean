/-
  Gleaner/Page/Markup.lean
  ========================
  **Rules in a document.**  The steps of a rule make one selector.  A selector that
  cannot be read selects nothing.  A rule without steps stands for the element
  itself, and in a whole document for the outermost element of the page.
-/
import Gleaner.Fault
import Gleaner.Rule.Basic
import Gleaner.Markup.Node.Printer
import Gleaner.Selector.Match
import Gleaner.Selector.Parser

namespace Gleaner.Markup

/-- The selector of a text; `none` for a text that is no selector. -/
def selectorOf? (css : String) : Except Fault (Option Selector) :=
  match Selector.parse css with
  | .ok s => .ok (some s)
  | .error .malformed => .ok none
  | .error (.pseudoElement index) => .error (.pseudoElement index)
  | .error (.tooManyDigits digits) => .error (.badValue (Text.digitLimitText digits))
  | .error .noCharacter => .error (.badValue "chr() arg not in range(0x110000)")

/-- The elements inside `scope` that a rule selects, in the order of the document. -/
def selectElements (scope : Place) (rule : Rule) : Except Fault (List Place) :=
  if rule.steps.isEmpty then .ok []
  else (selectorOf? rule.css).map fun
    | some s => Selector.select s scope
    | none => []

/-- The node that a rule without steps stands for. -/
def ownNode (scope : Place) : Node :=
  if scope.above.isEmpty then (Node.firstNamedOfAll? "html" scope.node.children).getD scope.node
  else scope.node

def firstNode? (scope : Place) (rule : Rule) : Except Fault (Option Node) :=
  if rule.steps.isEmpty then .ok (some (ownNode scope))
  else (selectElements scope rule).map fun places => places.head?.map (·.node)

/-- What a rule reads from a node: its text, its content as markup, the text directly
    in it, or an attribute. -/
def readNode (reading : Option String) (n : Node) : String :=
  match reading with
  | none | some "text" => Text.trim n.fullText
  | some "html" => Text.trim n.renderContent
  | some "textNodes" => Text.trim n.ownText
  | some name => (n.attribute? name).getD ""

def selectText (scope : Place) (rule : Rule) : Except Fault String :=
  (firstNode? scope rule).map fun
    | some n => readNode rule.reading n
    | none => ""

end Gleaner.Markup
