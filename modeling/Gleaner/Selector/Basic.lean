/-
  Gleaner/Selector/Basic.lean
  ===========================
  **Selectors.**  A selector is a condition on an element of a document.  It looks at
  the element itself, at its position among its neighbours, and along an axis at the
  elements around it.  The states of forms, such as being disabled, are conditions
  put together from simpler ones.
-/

namespace Gleaner

namespace Selector

inductive Axis where
  | parent
  | ancestor
  | previous
  | earlier
  | child
  | descendant
  | next
  | later
deriving DecidableEq, Repr

inductive Relation where
  | equal
  | startsWith
  | endsWith
  | contains
  | hasWord
  /-- The value is the text, or starts with it and a hyphen. -/
  | hasLead
deriving DecidableEq, Repr

structure ValueTest where
  relation : Relation
  text : List Char
  ignoresCase : Bool
deriving DecidableEq, Repr

inductive Direction where
  | leftToRight
  | rightToLeft
deriving DecidableEq, Repr

/-- Positions counted from one: the position `first`, or all positions
    `step * k + first`. -/
structure Positions where
  step : Option Int
  first : Int
deriving DecidableEq, Repr

/-- The text that an element must contain: one of `texts`, in the text directly
    inside it (`own`) or in all its text. -/
structure Mention where
  own : Bool
  texts : List (List Char)
deriving DecidableEq, Repr

end Selector

inductive Selector where
  /-- The element has a name, `*` for any; `space` is the name space it is asked in. -/
  | named (space : Option String) (name : String)
  | hasId (id : String)
  | hasClass (name : String)
  | hasAttribute (name : String) (test : Option Selector.ValueTest)
  /-- The outermost element, with nothing but blanks beside it. -/
  | isRoot
  /-- The element in which the selection takes place. -/
  | isScope
  | isEmpty
  /-- An element of a known kind: one whose name is no custom name. -/
  | isKnown
  /-- A field without content. -/
  | isBlankField
  /-- An input whose value is within its limits (`inside`), or outside. -/
  | isRanged (inside : Bool)
  | isFirstButton
  /-- A choice in a group in which nothing is chosen. -/
  | isOpenChoice
  | runs (direction : Selector.Direction)
  /-- The language of the element is in one of the ranges. -/
  | speaks (ranges : List (List Char))
  | mentions (all : List Selector.Mention)
  /-- The element has one of the positions among its siblings that satisfy `among`,
      and of the same name when `sameName`, counted from the end when `fromEnd`. -/
  | position (at_ : Selector.Positions) (sameName fromEnd : Bool) (among : Selector)
  /-- Every condition holds. -/
  | all (ss : List Selector)
  /-- Some condition holds. -/
  | any (ss : List Selector)
  | not (s : Selector)
  /-- Some element along an axis satisfies a condition. -/
  | near (axis : Selector.Axis) (s : Selector)
  | inDocument (s : Selector)
deriving Repr

namespace Selector

def always : Selector := .all []

def never : Selector := .any []

/-! ### States -/

def ofName (name : String) : Selector := .named none name

def ofNames (names : List String) : Selector := .any (names.map ofName)

def having (name : String) : Selector := .hasAttribute name none

/-- An attribute has a value, case ignored in the kind of an input. -/
def valued (name value : String) : Selector :=
  .hasAttribute name (some ⟨.equal, value.toList, name == "type"⟩)

def isLink : Selector := .inDocument (.all [ofNames ["a", "area"], having "href"])

def isChecked : Selector :=
  .inDocument (.any
    [.all [ofName "input", .any [valued "type" "checkbox", valued "type" "radio"],
      having "checked"], .all [ofName "option", having "selected"]])

def isVisibleInput : Selector := .all [ofName "input", .not (valued "type" "hidden")]

def isGroupPart : Selector :=
  .any [isVisibleInput, ofNames ["button", "select", "textarea", "fieldset"]]

def isFormPart : Selector := .any [isGroupPart, ofNames ["optgroup", "option"]]

def isDisabledGroup : Selector := .all [ofName "fieldset", having "disabled"]

def isFirstLegend : Selector :=
  .all [ofName "legend", .position ⟨none, 1⟩ true false always]

def isDisabled : Selector :=
  .inDocument (.any
    [.all [isFormPart, having "disabled"],
     .all [ofName "option", .near .parent (.all [ofName "optgroup", having "disabled"])],
     .all [isGroupPart, .near .parent isDisabledGroup],
     .all [isGroupPart,
       .near .ancestor (.all [.not isFirstLegend, .near .parent isDisabledGroup])]])

def isEnabled : Selector := .inDocument (.all [isFormPart, .not isDisabled])

def isField : Selector := ofNames ["input", "select", "textarea"]

def isRequired : Selector := .inDocument (.all [isField, having "required"])

def isOptional : Selector := .inDocument (.all [isField, .not (having "required")])

/-- The choice or button that counts when nothing else is chosen. -/
def isDefault : Selector :=
  .inDocument (.any
    [isChecked,
     .all [ofNames ["button", "input"], valued "type" "submit", .near .ancestor (ofName "form"),
       .isFirstButton]])

/-- A choice or a progress of which nothing is known. -/
def isIndeterminate : Selector :=
  .inDocument (.any
    [.all [ofName "input", valued "type" "checkbox", having "indeterminate"],
     .all [ofName "input", valued "type" "radio", .any [.not (having "name"), valued "name" ""],
       .not (having "checked")],
     .all [ofName "progress", .not (having "value")],
     .all [ofName "input", valued "type" "radio", having "name", .not (valued "name" ""),
       .not (having "checked"), .isOpenChoice]])

/-- The kind of an input is one of several, or is not given. -/
def ofKinds (kinds : List String) : Selector :=
  .any (.not (having "type") :: valued "type" "" :: kinds.map (valued "type"))

def showsHint : Selector :=
  .inDocument (.any
    [.all [ofName "input",
       ofKinds ["text", "search", "url", "tel", "email", "password", "number"],
       having "placeholder", .not (valued "placeholder" ""),
       .any [.not (having "value"), valued "value" ""]],
     .all [ofName "textarea", having "placeholder", .not (valued "placeholder" ""),
       .isBlankField]])

def isWritable : Selector :=
  .inDocument (.any
    [.all
      [.any [ofName "textarea",
         .all [ofName "input",
           ofKinds ["date", "datetime-local", "email", "month", "number", "password",
             "search", "tel", "text", "time", "url", "week"]]],
       .not (.any [having "readonly", isDisabled])],
     .any [valued "contenteditable" "",
       .hasAttribute "contenteditable" (some ⟨.equal, "true".toList, true⟩)]])

def isFixed : Selector := .inDocument (.not isWritable)

/-- An input with a limit whose value is within (`inside`) or outside its limits. -/
def isLimited (inside : Bool) : Selector :=
  .inDocument (.all
    [ofName "input",
     .any (["date", "month", "week", "time", "datetime-local", "number", "range"].map
       (valued "type")),
     .any [having "min", having "max"],
     .isRanged inside])

def isOpen : Selector := .inDocument (.all [ofNames ["details", "dialog"], having "open"])

def isMuted : Selector := .inDocument (.all [ofNames ["audio", "video"], having "muted"])

/-- The position from one end among siblings, of the same name if `sameName`. -/
def edge (sameName fromEnd : Bool) : Selector := .position ⟨none, 1⟩ sameName fromEnd always

/-- The states that have a name and no parameter, other than `isKnown`, by their names. -/
def state? : String → Option Selector
  | ":any-link" | ":link" => some isLink
  | ":checked" => some isChecked
  | ":default" => some isDefault
  | ":disabled" => some isDisabled
  | ":empty" => some .isEmpty
  | ":enabled" => some isEnabled
  | ":first-child" => some (edge false false)
  | ":first-of-type" => some (edge true false)
  | ":in-range" => some (isLimited true)
  | ":indeterminate" => some isIndeterminate
  | ":last-child" => some (edge false true)
  | ":last-of-type" => some (edge true true)
  | ":muted" => some isMuted
  | ":only-child" => some (.all [edge false false, edge false true])
  | ":only-of-type" => some (.all [edge true false, edge true true])
  | ":open" => some isOpen
  | ":optional" => some isOptional
  | ":out-of-range" => some (isLimited false)
  | ":placeholder-shown" => some showsHint
  | ":read-only" => some isFixed
  | ":read-write" => some isWritable
  | ":required" => some isRequired
  | ":root" => some .isRoot
  | ":scope" => some .isScope
  | _ => none

/-- States of a document that someone is looking at; no element ever has one here. -/
def liveStates : List String :=
  [":active", ":autofill", ":buffering", ":current", ":focus", ":focus-visible", ":focus-within",
   ":fullscreen", ":future", ":host", ":hover", ":local-link", ":modal", ":past", ":paused",
   ":picture-in-picture", ":playing", ":popover-open", ":seeking", ":stalled", ":target",
   ":target-within", ":user-invalid", ":user-valid", ":visited", ":volume-locked"]

/-- States with a selector as parameter that no element ever has here. -/
def liveFunctions : List String := [":current", ":host", ":host-context"]

end Selector

end Gleaner
