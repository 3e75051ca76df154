/-
  Gleaner/Command/Basic.lean
  ==========================
  **Commands.**  What can be asked on a command line, and how arguments are read.
  Options may stand anywhere among the other arguments, the value of one behind it or
  after an equals sign; two dashes alone end the options; of an option given twice the
  last counts.
-/
import Gleaner.Text.Digits
import Gleaner.Text.Split

namespace Gleaner

inductive Command where
  /-- Show a sample of a source. -/
  | demo
  /-- Follow one rule on a saved page. -/
  | select (file rule : String) (asList : Bool)
  | search (file keyword : String) (page index : Int)
  /-- List the pages for exploring, or load the one with a number. -/
  | explore (file : String) (entry page index : Int)
  /-- Run through the stages of a source. -/
  | debug (file keyword : String) (index : Int)
deriving DecidableEq, Repr, Inhabited

namespace Command

/-! ### The form of arguments -/

structure Form where
  numbers : List String
  /-- The options without a value. -/
  flags : List String

structure Given where
  places : List String
  numbers : List (String × String)
  flags : List String

def isOption (arg : String) : Bool :=
  match arg.toList with
  | '-' :: _ :: _ => true
  | _ => false

/-- The name of an option, and the value after its equals sign. -/
def splitOption (arg : String) : String × Option String :=
  match Text.cutAt? ['='] arg.toList with
  | some (name, value) => (String.ofList name, some (String.ofList value))
  | none => (arg, none)

/-- Sort arguments; `none` if an option is unknown or its value is missing. -/
def sort (form : Form) (g : Given) : List String → Option Given
  | [] => some g
  | arg :: more =>
      if arg = "--" then some { g with places := g.places ++ more }
      else if isOption arg then
        match splitOption arg, more with
        | (name, none), more =>
            if form.flags.contains name then sort form { g with flags := g.flags ++ [name] } more
            else if form.numbers.contains name then
              match more with
              | [] => none
              | value :: more => sort form { g with numbers := g.numbers ++ [(name, value)] } more
            else none
        | (name, some value), more =>
            if form.numbers.contains name then
              sort form { g with numbers := g.numbers ++ [(name, value)] } more
            else none
      else sort form { g with places := g.places ++ [arg] } more
termination_by args => args.length

/-- The number that an option gives last, or what it is without; `none` if the text is
    no number. -/
def number? (g : Given) (name : String) (otherwise : Int) : Option Int :=
  match (g.numbers.filter (·.1 == name)).getLast? with
  | none => some otherwise
  | some (_, value) => Text.parseInt? value

/-! ### Reading -/

def ofName? (name : String) (args : List String) : Option Command := do
  let sorted (numbers flags : List String) := sort ⟨numbers, flags⟩ ⟨[], [], []⟩ args
  match name with
  | "demo" =>
      match (← sorted [] []).places with
      | [] => some .demo
      | _ => none
  | "select" =>
      let g ← sorted [] ["--list"]
      match g.places with
      | [file, rule] => some (.select file rule (!g.flags.isEmpty))
      | _ => none
  | "search" =>
      let g ← sorted ["--page", "--index"] []
      match g.places with
      | [file, keyword] =>
          return .search file keyword (← number? g "--page" 1) (← number? g "--index" 0)
      | _ => none
  | "explore" =>
      let g ← sorted ["--entry", "--page", "--index"] []
      match g.places with
      | [file] =>
          return .explore file (← number? g "--entry" 0) (← number? g "--page" 1)
            (← number? g "--index" 0)
      | _ => none
  | "debug" =>
      let g ← sorted ["--index"] []
      match g.places with
      | [file, keyword] => return .debug file keyword (← number? g "--index" 0)
      | _ => none
  | _ => none

/-- Read a command line; `none` if it is not understood. -/
def ofArguments? : List String → Option Command
  | "--" :: name :: args => ofName? name args
  | name :: args => ofName? name args
  | [] => none

end Command

end Gleaner
