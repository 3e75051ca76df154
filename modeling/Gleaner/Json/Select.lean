/-
  Gleaner/Json/Select.lean
  ========================
  **Rules in a Json value.**  A rule is first a plain name or position, then a
  path.  A path with names beyond ASCII, which is no path in the notation of
  `Json.Path`, is walked name by name.  A path that cannot be read selects
  nothing.
-/
import Gleaner.Fault
import Gleaner.Json.Path.Parser
import Gleaner.Json.Path.Eval
import Gleaner.Json.Reader
import Gleaner.Rule.Basic

namespace Gleaner.Json

/-- The position that a text of ASCII digits writes, if a list of `size` items has
    it. -/
def position? (size : Nat) (key : List Char) : Except Fault (Option Nat) :=
  if key.isEmpty || !key.all Text.asciiDigit then .ok none
  else if Text.maxDigits < key.length then .error (.badValue (Text.digitLimitText key.length))
  else
    let n := Text.decimalValue key
    .ok (if n < size then some n else none)

def step (v : Json) (part : List Char) : Except Fault (Option Json) :=
  match v with
  | .obj ms => .ok (find? (String.ofList part) ms)
  | .arr items =>
      match position? items.length part with
      | .error e => .error e
      | .ok none => .ok none
      | .ok (some i) => .ok items[i]?
  | _ => .ok none

def walk (v : Json) : List (List Char) → Except Fault (Option Json)
  | [] => .ok (some v)
  | part :: parts =>
      match step v part with
      | .error e => .error e
      | .ok none => .ok none
      | .ok (some w) => walk w parts

/-- The names and positions of a path with plain dots; a `$` at its front and the
    dots after it do not count. -/
def walkParts (key : List Char) : List (List Char) :=
  match key with
  | '$' :: r => Text.splitChar '.' (r.dropWhile (· == '.'))
  | r => Text.splitChar '.' r

def pathText (key : List Char) : List Char :=
  match key with
  | '$' :: _ => key
  | '[' :: _ => '$' :: key
  | _ => '$' :: '.' :: key

/-- The values that a key selects as a path, in order. -/
def query (root : Json) (key : String) : Except Fault (List Json) :=
  if key = "" then .ok []
  else
    match Path.parse (pathText key.toList) with
    | .ok p => .ok (p.values root)
    | .error .malformed => .ok []
    | .error .foreign => (walk root (walkParts key.toList)).map Option.toList

/-- The member or item that a key names by itself. -/
def direct? (root : Json) (key : String) : Except Fault (Option Json) := step root key.toList

def selectValue (root : Json) (rule : String) : Except Fault (Option Json) :=
  let key := Rule.key rule
  match direct? root key with
  | .error e => .error e
  | .ok (some v) => .ok (some v)
  | .ok none => (query root key).map List.head?

/-- The values of a selection, lists replaced by their items and nulls left out. -/
def spliced : List Json → List Json
  | [] => []
  | .arr items :: vs => items ++ spliced vs
  | .null :: vs => spliced vs
  | v :: vs => v :: spliced vs

def selectList (root : Json) (rule : String) : Except Fault (List Json) :=
  let key := Rule.key rule
  match direct? root key with
  | .error e => .error e
  | .ok (some (.arr items)) => .ok items
  | .ok _ => (query root key).map spliced

end Gleaner.Json
