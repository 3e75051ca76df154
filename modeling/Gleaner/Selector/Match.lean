/-
  Gleaner/Selector/Match.lean
  ===========================
  **Elements that satisfy a selector.**  `holds` follows the selector, and along an
  axis it tries the places there.  `select` lists the elements inside a place that
  satisfy a selector, in the order of the document.
-/
import Gleaner.Markup.Place
import Gleaner.Selector.Basic
import Gleaner.Selector.Value
import Gleaner.Selector.Limit
import Gleaner.Selector.Language
import Gleaner.Text.Direction

namespace Gleaner.Selector

open Markup

/-! ### The document around an element -/

/-- What a selection takes place in: the outermost element, if there is one, and the
    element in which elements are looked for, by their paths. -/
structure View where
  root : Option (List Nat)
  scope : Option (List Nat)

/-- The view of a selection inside `context`; in a whole document the outermost
    element takes the place of the context. -/
def View.of (context : Place) : View :=
  let root := (context.document.children.head?).map Place.path
  ⟨root, if context.above.isEmpty then root else some context.path⟩

/-- The node is an embedded document. -/
def isFrame (n : Node) : Bool := Text.asciiLower n.name == "iframe"

/-- The elements around a place, innermost first, up to an embedded document if
    `strict`. -/
def outward (strict : Bool) (p : Place) : List Place :=
  if strict then p.ancestors.takeWhile (!isFrame ·.node) else p.ancestors

/-- The elements inside a place, those in embedded documents left out if `strict`. -/
def inward (strict : Bool) (p : Place) : List Place :=
  if strict then
    p.descendants.filter fun q =>
      !(q.above.take (q.above.length - p.above.length)).any (isFrame ·.node)
  else p.descendants

def Axis.places (strict : Bool) (p : Place) : Axis → List Place
  | .parent => (outward strict p).take 1
  | .ancestor => outward strict p
  | .previous => (p.preceding.filter (·.node.isElement)).take 1
  | .earlier => p.preceding.filter (·.node.isElement)
  | .child => if strict && isFrame p.node then [] else p.children
  | .descendant => inward strict p
  | .next => (p.following.filter (·.node.isElement)).take 1
  | .later => p.following.filter (·.node.isElement)

/-- Attributes and element names are compared without the case of ASCII letters. -/
def attributeValue? (n : Node) (name : String) : Option String :=
  let key := Text.asciiLower name
  (n.attributes.find? fun (k, _) => Text.asciiLower k == key).map (·.2)

def hasName (n : Node) (name : String) : Bool := Text.asciiLower n.name == name

/-! ### Text -/

mutual

/-- The pieces of text in a node outside of embedded documents. -/
def visiblePieces : Node → List String
  | .text kind content => if kind.isMarked then [] else [content]
  | .element name _ cs => if Text.asciiLower name == "iframe" then [] else visiblePiecesOfAll cs

def visiblePiecesOfAll : List Node → List String
  | [] => []
  | n :: ns => visiblePieces n ++ visiblePiecesOfAll ns

end

def directPieces (n : Node) : List String :=
  if isFrame n then []
  else n.children.filterMap fun
    | .text kind content => if kind.isMarked then none else some content
    | .element .. => none

/-- The element mentions one of the texts of every mention.  The first mention decides
    which text is looked at: all text of the element, or the pieces directly in it. -/
def hasMentions (n : Node) (ms : List Mention) : Bool :=
  match ms with
  | [] => true
  | m :: _ =>
      if m.own then
        let pieces := (directPieces n).map String.toList
        ms.all fun m => m.texts.any fun t =>
          if m.own then pieces.any (isPart t) else pieces.contains t
      else
        let text := (visiblePieces n).flatMap String.toList
        ms.all fun m => m.texts.any fun t =>
          if m.own then text.any fun c => isPart t [c] else isPart t text

def isSolidText : Node → Bool
  | .text .marked _ => true
  | .text kind content => !kind.isMarked && !Text.allBlank content
  | .element .. => false

/-- The node is an element, or text with anything but the blanks of markup. -/
def fills : Node → Bool
  | .text kind content => !kind.isMarked && !content.toList.all Text.isMarkupBlank
  | .element .. => true

/-! ### Positions -/

def Positions.includes (ps : Positions) (n : Nat) : Bool :=
  match ps.step with
  | none => ps.first == n
  | some 0 => ps.first == n
  | some step =>
      let distance := (n : Int) - ps.first
      distance % step == 0 && 0 ≤ distance / step

/-- The position of `p`, counted from one, among the places in a list. -/
def positionIn? (p : Place) (places : List Place) : Option Nat :=
  (places.findIdx? (·.same p)).map (· + 1)

/-! ### Roots, languages and directions -/

/-- The place is the outermost element of a document, or of an embedded one. -/
def isOutermost (v : View) (p : Place) : Bool :=
  v.root == some p.path || (p.parent?.map (isFrame ·.node)).getD false

/-- The place is an outermost element with nothing but blanks beside it. -/
def isRootPlace (v : View) (p : Place) : Bool :=
  isOutermost v p &&
    !(p.preceding ++ p.following).any fun q => q.node.isElement || isSolidText q.node

/-- The last language that the attributes of some elements state, up to the first one
    that is not empty. -/
def statedLanguage? (found : Option String) : List Node → Option String
  | [] => found
  | n :: ns =>
      match attributeValue? n "lang" with
      | none => statedLanguage? found ns
      | some "" => statedLanguage? (some "") ns
      | some language => some language

def remarkedLanguage? (about : Bool) (content : Option String) :
    List (String × String) → Option String
  | [] => none
  | (k, v) :: more =>
      let key := Text.asciiLower k
      let about := about || (key == "http-equiv" && Text.asciiLower v == "content-language")
      let content := if key == "content" then some v else content
      match content with
      | some language =>
          if about && language ≠ "" then some language else remarkedLanguage? about content more
      | none => remarkedLanguage? about content more

def childNamed? (name : String) (n : Node) : Option Node :=
  n.children.find? fun c => c.isElement && hasName c name

def headLanguage? (document : Node) : Option String :=
  ((childNamed? "html" document).bind (childNamed? "head")).bind fun head =>
    head.children.findSome? fun c =>
      if c.isElement && hasName c "meta" then remarkedLanguage? false none c.attributes else none

def language? (p : Place) : Option String :=
  let chain := p :: outward true p
  match statedLanguage? none (chain.map (·.node)) with
  | some language => some language
  | none => headLanguage? ((chain.getLast?).getD p).node

def letterDirection? (s : List Char) : Option Direction :=
  s.findSome? fun c => (Text.runsLeftward? c).map fun leftward =>
    if leftward then .rightToLeft else .leftToRight

/-- The direction that an attribute states: `some none` when the content decides. -/
def statedDirection? (n : Node) : Option (Option Direction) :=
  match (attributeValue? n "dir").map Text.asciiLower with
  | some "ltr" => some (some .leftToRight)
  | some "rtl" => some (some .rightToLeft)
  | some "auto" => some none
  | _ => none

mutual

def contentDirection? : Node → Option Direction
  | .text kind content => if kind.isMarked then none else letterDirection? content.toList
  | .element name attributes cs =>
      if ["bdi", "script", "style", "textarea", "iframe"].contains (Text.asciiLower name)
        || (statedDirection? (.element name attributes [])).isSome then none
      else contentDirectionOfAll? cs

def contentDirectionOfAll? : List Node → Option Direction
  | [] => none
  | n :: ns =>
      match contentDirection? n with
      | some d => some d
      | none => contentDirectionOfAll? ns

end

/-- What an element by itself says on its direction: a direction, or that the
    element around it decides (`none`). -/
def ownDirection? (v : View) (p : Place) : Option Direction :=
  let n := p.node
  let stated := statedDirection? n
  let outermost := isOutermost v p
  let kind := Text.asciiLower ((attributeValue? n "type").getD "")
  let isInput := hasName n "input"
  let fallback : Option Direction := if outermost then some .leftToRight else none
  match stated with
  | some (some d) => some d
  | none =>
      if outermost then some .leftToRight
      else if isInput && kind == "tel" then some .leftToRight
      else if hasName n "bdi" then contentDirectionOfAll? n.children
      else none
  | some none =>
      let isText := isInput && ["text", "search", "tel", "url", "email"].contains kind
      if isText || hasName n "textarea" then
        let value :=
          if isText then (attributeValue? n "value").getD "" else String.join (directPieces n)
        if value == "" then fallback
        else some ((letterDirection? value.toList).getD .leftToRight)
      else
        match contentDirectionOfAll? n.children with
        | some d => some d
        | none => fallback

/-- The direction of an element: its own, or that of the nearest element around it
    that has one. -/
def direction? (v : View) (p : Place) : Option Direction :=
  (p :: outward true p).findSome? (ownDirection? v)

/-! ### Forms -/

def form? (p : Place) : Option Place := (outward true p).find? (hasName ·.node "form")

/-- The form around an element, or else the whole document. -/
def group (p : Place) : Place := (form? p).getD ((outward true p).getLast?.getD p)

def isFirstButtonPlace (p : Place) : Bool :=
  match form? p with
  | none => false
  | some form =>
      let before := (inward true form).takeWhile fun q => !hasName q.node "form"
      let sends (q : Place) : Bool :=
        (hasName q.node "input" || hasName q.node "button")
          && (attributeValue? q.node "type").map Text.asciiLower == some "submit"
      ((before.find? sends).map (·.same p)).getD false

def isOpenChoicePlace (p : Place) : Bool :=
  let name := attributeValue? p.node "name"
  let home := group p
  !(inward true home).any fun q =>
    !q.same p && hasName q.node "input"
      && (attributeValue? q.node "type").map Text.asciiLower == some "radio"
      && attributeValue? q.node "name" == name
      && (attributeValue? q.node "checked").isSome
      && (group q).same home

def limitState? (n : Node) : Option Bool :=
  withinLimits? (Text.asciiLower ((attributeValue? n "type").getD ""))
    (attributeValue? n "min") (attributeValue? n "max") (attributeValue? n "value")

/-! ### Selection -/

mutual

/-- The element at a place satisfies a selector; `strict` inside a condition that does
    not look into embedded documents. -/
def holds (v : View) (strict : Bool) : Selector → Place → Bool
  | .named space name, p =>
      (match space with
        | none => true
        | some s => s == "*" || (strict && s == "html"))
      && (name == "*" || Text.asciiLower name == Text.asciiLower p.node.name)
  | .hasId id, p => (attributeValue? p.node "id").getD "" == id
  | .hasClass name, p =>
      (Text.words ((attributeValue? p.node "class").getD "")).contains name
  | .hasAttribute name test, p =>
      match attributeValue? p.node name with
      | none => false
      | some value => (test.map (·.accepts value)).getD true
  | .isRoot, p => isRootPlace v p
  | .isScope, p => v.scope == some p.path
  | .isEmpty, p => (strict && isFrame p.node) || !p.node.children.any fills
  | .isKnown, p => !p.node.name.toList.contains '-' || p.node.name.toList.contains ':'
  | .isBlankField, p =>
      ["", "\n"].contains (String.join (p.node.pieces (!·.isMarked)))
  | .isRanged inside, p => limitState? p.node == some inside
  | .isFirstButton, p => isFirstButtonPlace p
  | .isOpenChoice, p => isOpenChoicePlace p
  | .runs direction, p => direction? v p == some direction
  | .speaks ranges, p =>
      match language? p with
      | none => false
      | some language => ranges.any fun range => covers range language.toList
  | .mentions ms, p => hasMentions p.node ms
  | .position at_ sameName fromEnd among, p =>
      holds v strict among p &&
        (let counted := (if fromEnd then p.siblings.reverse else p.siblings).filter fun q =>
          q.node.isElement && holds v strict among q
            && (!sameName || Text.asciiLower q.node.name == Text.asciiLower p.node.name)
        ((positionIn? p counted).map at_.includes).getD false)
  | .all ss, p => allHold v strict ss p
  | .any ss, p => anyHolds v strict ss p
  | .not s, p => !holds v strict s p
  | .near axis s, p => (axis.places strict p).any (holds v strict s ·)
  | .inDocument s, p => holds v true s p

def allHold (v : View) (strict : Bool) : List Selector → Place → Bool
  | [], _ => true
  | s :: ss, p => holds v strict s p && allHold v strict ss p

def anyHolds (v : View) (strict : Bool) : List Selector → Place → Bool
  | [], _ => false
  | s :: ss, p => holds v strict s p || anyHolds v strict ss p

end

/-- The elements inside a place that satisfy a selector, in the order of the
    document. -/
def select (s : Selector) (context : Place) : List Place :=
  context.descendants.filter (holds (View.of context) false s ·)

end Gleaner.Selector
