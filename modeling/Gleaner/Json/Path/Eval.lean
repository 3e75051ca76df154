/-
  Gleaner/Json/Path/Eval.lean
  ===========================
  **What a path selects.**  A place is a value together with the values around
  it.  A path selects a list of places, in order, with repetitions; `none` means
  that the path cannot be followed at all, and then nothing is selected.
-/
import Gleaner.Json.Path.Basic
import Gleaner.Json.Shown
import Gleaner.Pattern.Parser
import Gleaner.Text.Split

namespace Gleaner.Json

/-- A place in a value: what stands there, its label, and the places around it
    with their labels, the nearest first. -/
structure Place where
  value : Json
  label : String
  around : List (Json × String)

namespace Place

def alone (v : Json) (label : String) : Place := ⟨v, label, []⟩

def under (m : Place) (v : Json) (label : String) : Place :=
  ⟨v, label, (m.value, m.label) :: m.around⟩

def outermost (m : Place) : Place :=
  match m.around.getLast? with
  | none => alone m.value "$"
  | some (v, _) => alone v "$"

end Place

namespace Path

/-- The places of every place, if all of them can be found. -/
def gather {α β : Type} (f : α → Option (List β)) : List α → Option (List β)
  | [] => some []
  | x :: xs =>
      match f x, gather f xs with
      | some ys, some zs => some (ys ++ zs)
      | _, _ => none

/-! ### Below a place -/

def memberLabel (name : String) : String :=
  if name.toList.any ("*.[]()$,:|&~?@+/-".toList.contains ·) then "\x27" ++ name ++ "\x27" else name

def itemLabel (i : Nat) : String := "[" ++ toString i ++ "]"

def itemsFrom (m : Place) : Nat → List Json → List Place
  | _, [] => []
  | i, v :: vs => m.under v (itemLabel i) :: itemsFrom m (i + 1) vs

def childrenOf (m : Place) : List Place :=
  match m.value with
  | .arr items => itemsFrom m 0 items
  | .obj ms => ms.map fun (k, v) => m.under v (memberLabel k)
  | _ => []

/-- A place and all places below it, each before what is below it; `fuel` bounds
    the depth. -/
def everyDepth : Nat → Place → List Place
  | 0, m => [m]
  | fuel + 1, m => m :: (childrenOf m).flatMap (everyDepth fuel)

mutual
def depth : Json → Nat
  | .arr items => depthItems items + 1
  | .obj ms => depthMembers ms + 1
  | _ => 1
def depthItems : List Json → Nat
  | [] => 0
  | v :: vs => max (depth v) (depthItems vs)
def depthMembers : List (String × Json) → Nat
  | [] => 0
  | (_, v) :: ms => max (depth v) (depthMembers ms)
end

/-- The item at a position, counted from the end if it is negative. -/
def itemAt? (items : List Json) (i : Int) : Option (Nat × Json) :=
  let j : Int := if i < 0 then i + items.length else i
  if j < 0 then none else (items[j.toNat]?).map (j.toNat, ·)

/-- The positions of a slice: from `i` by `step` while `stop` is not reached. -/
def positions (stop step : Int) : Nat → Int → List Nat
  | 0, _ => []
  | fuel + 1, i =>
      if (0 < step ∧ i < stop) ∨ (step < 0 ∧ stop < i) then
        i.toNat :: positions stop step fuel (i + step)
      else []

/-- A bound of a slice of `n` items, brought into the range from `low` to `high`. -/
def bound (n low high : Int) (b : Int) : Int :=
  let c := if b < 0 then b + n else b
  max low (min high c)

/-- The positions of a slice of `n` items; no positions for step zero. -/
def slicePositions (n : Nat) (start stop step : Option Int) : Option (List Nat) :=
  let step := step.getD 1
  if step = 0 then none
  else if 0 < step then
    let i := (start.map (bound n 0 n)).getD 0
    let j := (stop.map (bound n 0 n)).getD n
    some (positions j step (n + 1) i)
  else
    let i := (start.map (bound n (-1) (n - 1))).getD (n - 1)
    let j := (stop.map (bound n (-1) (n - 1))).getD (-1)
    some (positions j step (n + 1) i)

/-! ### Arithmetic -/

/-- The outcome of arithmetic on two values: a value, no meaning for such values,
    or a result that cannot be built. -/
inductive Outcome where
  | value (v : Json)
  | meaningless
  | unbuildable

/-- A value as a whole number, truth values as zero and one. -/
def whole? : Json → Option Int
  | .int n => some n
  | .bool b => some (if b then 1 else 0)
  | _ => none

/-- A value as a number in binary64; `none` inside if it is too large. -/
def real? : Json → Option (Option Binary64)
  | .real x => some (some x)
  | v => (whole? v).map fun n =>
      match Binary64.ofInt n with
      | .infinite _ => none
      | x => some x

def onInts : Arithmetic → Int → Int → Int
  | .plus, m, n => m + n
  | .minus, m, n => m - n
  | .times, m, n => m * n

def onReals : Arithmetic → Binary64 → Binary64 → Binary64
  | .plus, x, y => x.add y
  | .minus, x, y => x.sub y
  | .times, x, y => x.mul y

/-- The most items that a repetition is built with.  Where memory ends is a matter of the
    machine; this bound is one of the library. -/
def largest : Nat := 10000000

def repeatList {α : Type} (xs : List α) (n : Int) : Option (List α) :=
  if largest < xs.length * n.toNat then none
  else some ((List.replicate n.toNat xs).flatten)

/-- A text or list repeated. -/
def repeatValue (v : Json) (n : Int) : Outcome :=
  match v with
  | .str s =>
      match repeatList s.toList n with
      | some t => .value (.str (String.ofList t))
      | none => .unbuildable
  | .arr items =>
      match repeatList items n with
      | some t => .value (.arr t)
      | none => .unbuildable
  | _ => .meaningless

/-- Arithmetic on two values: numbers are computed with, texts and lists are
    joined by addition and repeated by multiplication. -/
def combine (op : Arithmetic) (l r : Json) : Outcome :=
  match whole? l, whole? r with
  | some m, some n => .value (.int (onInts op m n))
  | lw, rw =>
      match real? l, real? r with
      | some (some x), some (some y) => .value (.real (onReals op x y))
      | some _, some _ => .unbuildable
      | _, _ =>
          match op, l, r, lw, rw with
          | .plus, .str s, .str t, _, _ => .value (.str (s ++ t))
          | .plus, .arr xs, .arr ys, _, _ => .value (.arr (xs ++ ys))
          | .times, v, _, _, some n => repeatValue v n
          | .times, _, v, some n, _ => repeatValue v n
          | _, _, _, _, _ => .meaningless

/-- Arithmetic on pairs of values: one pair without meaning leaves nothing. -/
def combineAll (op : Arithmetic) : List (Json × Json) → Option (List Json)
  | [] => some []
  | (l, r) :: more =>
      match combine op l r with
      | .unbuildable => none
      | .meaningless => some []
      | .value v =>
          match combineAll op more with
          | none => none
          | some vs => if vs.length = more.length then some (v :: vs) else some []

/-! ### Order -/

mutual
def order? : Json → Json → Option Ordering
  | .str s, .str t => some (compare s t)
  | .arr xs, .arr ys => orderItems? xs ys
  | l, r =>
      match whole? l, whole? r with
      | some m, some n => some (compare m n)
      | _, _ =>
          match l, r with
          | .real x, .real y => some ((x.compare? y).getD .gt)
          | .real x, r => (whole? r).map fun n => (x.compareInt? n).getD .gt
          | l, .real y => (whole? l).map fun n => ((y.compareInt? n).map Ordering.swap).getD .gt
          | _, _ => none
def orderItems? : List Json → List Json → Option Ordering
  | [], [] => some .eq
  | [], _ :: _ => some .lt
  | _ :: _, [] => some .gt
  | x :: xs, y :: ys => if same x y then orderItems? xs ys else order? x y
end

/-- Put a value in its place in a sorted list, after those equal to it. -/
def insertBy (cmp : Json → Json → Option Ordering) (v : Json) : List Json → Option (List Json)
  | [] => some [v]
  | w :: ws =>
      match cmp v w with
      | none => none
      | some .gt => (insertBy cmp v ws).map (w :: ·)
      | some _ => some (v :: w :: ws)

/-- A list sorted, equal values in their old order; `none` if two values that had
    to be compared cannot be. -/
def sortBy (cmp : Json → Json → Option Ordering) : List Json → Option (List Json)
  | [] => some []
  | v :: vs =>
      match sortBy cmp vs with
      | none => none
      | some ws => insertBy cmp v ws

/-! ### Comparisons in tests -/

def comesBefore (l r : Json) : Bool :=
  match l, r with
  | .bool _, _ => false
  | _, .bool _ => false
  | .arr _, _ => false
  | l, r =>
      match l, r with
      | .real x, .real y => x.compare? y == some .lt
      | .real x, .int n => x.compareInt? n == some .lt
      | .int n, .real y => y.compareInt? n == some .gt
      | l, r => order? l r == some .lt

/-- Two values are equal; a truth value equals no number. -/
def equalValues (l r : Json) : Bool := same l r

def somePair (rel : Json → Json → Bool) (ls rs : List Json) : Bool := ls.any fun l => rs.any (rel l)

/-- Two selections are equal: both empty, or with a value in common. -/
def equalSelections (ls rs : List Json) : Bool :=
  (ls.isEmpty && rs.isEmpty) || somePair equalValues ls rs

def foundIn (pattern : Pattern) (v : Json) : Bool :=
  match v with
  | .str s => (pattern.search? s.toList).isSome
  | _ => false

def compareSelections (op : Comparison) (ls rs : List Json) : Option Bool :=
  match op with
  | .equal => some (equalSelections ls rs)
  | .unequal => some (!equalSelections ls rs)
  | .less => some (somePair comesBefore ls rs)
  | .greater => some (somePair comesBefore rs ls)
  | .atMost => some (equalSelections ls rs || somePair comesBefore ls rs)
  | .atLeast => some (equalSelections ls rs || somePair comesBefore rs ls)
  | .matching =>
      match rs with
      | [.str p] =>
          match Pattern.parse? p.toList with
          | some pattern => some (ls.any (foundIn pattern))
          | none => none
      | _ => none

/-! ### Texts -/

def splitParts (s separator : String) (limit : Int) : Option (List String) :=
  if separator = "" then none
  else
    let cuts : Option Nat := if limit < 0 then none else some limit.toNat
    some ((Text.splitText separator.toList cuts 0 s.toList []).map String.ofList)

def splitValue (v : Json) (separator : String) (part : Option Int) (limit : Int) : Option Json :=
  match v with
  | .str s =>
      match splitParts s separator limit with
      | none => none
      | some parts =>
          let values := parts.map Json.str
          match part with
          | none => some (.arr values)
          | some i => (itemAt? values i).map (·.2)
  | _ => none

/-- The text of a replacement: digits after a backslash stand for a group. -/
def expand (c : Pattern.Cursor) : List Char → List Char
  | '\\' :: d :: r =>
      if '1' ≤ d && d ≤ '9' then (c.group? (Text.asciiDigitValue d)).getD [] ++ expand c r
      else '\\' :: d :: expand c r
  | d :: r => d :: expand c r
  | [] => []

def replaced (v : Json) (pattern by_ : String) : Option Json :=
  match v, Pattern.parse? pattern.toList with
  | .str s, some p =>
      some (.str (String.ofList (p.replaceMatches (fun c => expand c by_.toList) s.toList)))
  | _, _ => none

def sizeOf? : Json → Option Nat
  | .arr items => some items.length
  | .obj ms => some ms.length
  | .str s => some s.length
  | _ => none

def thisLabel : String := "\x60this\x60"

mutual
def select : Path → Place → Option (List Place)
  | .root, m => some [m.outermost]
  | .this, m => some [m]
  | .parent, m =>
      match m.around with
      | [] => none
      | (v, l) :: more => some [⟨v, l, more⟩]
  | .fields ns, m =>
      match m.value with
      | .obj ms => some (ns.filterMap fun n => (find? n ms).map fun v => m.under v (memberLabel n))
      | _ => some []
  | .every, m => some (childrenOf m)
  | .index is, m =>
      match m.value with
      | .arr items =>
          some (is.filterMap fun i => (itemAt? items i).map fun (j, v) => m.under v (itemLabel j))
      | _ => some []
  | .slice a b c, m =>
      match m.value with
      | .arr items =>
          (slicePositions items.length a b c).map fun js =>
            js.filterMap fun j => (items[j]?).map fun v => m.under v (itemLabel j)
      | _ => some []
  | .child p q, m =>
      match select p m with
      | none => none
      | some ms => gather (fun n => select q n) ms
  | .deep p q, m =>
      match select p m with
      | none => none
      | some ms =>
          gather (fun n => gather (fun k => select q k) (everyDepth (depth n.value) n)) ms
  | .having wanted p q, m =>
      match select p m with
      | none => none
      | some ms =>
          gather (fun n => (select q n).map fun found =>
            if found.isEmpty == wanted then [] else [n]) ms
  | .union p q, m =>
      match select p m, select q m with
      | some ms, some ns => some (ms ++ ns)
      | _, _ => none
  | .common _ _, _ => none
  | .filter t, m =>
      gather (fun n => (holds t n).map fun b => if b then [n] else []) (childrenOf m)
  | .sort .done, m =>
      match m.value with
      | .arr items => (sortBy order? items).map fun vs => [.alone (.arr vs) thisLabel]
      | .obj ms =>
          (sortBy order? (ms.map fun (k, _) => .str k)).map fun vs => [.alone (.arr vs) thisLabel]
      | _ => none
  | .sort (.key p down more), m =>
      match m.value with
      | .arr items =>
          (sortBy (fun v w => orderBy (.key p down more) (.alone v thisLabel) (.alone w thisLabel))
            items).map fun vs => [.alone (.arr vs) thisLabel]
      | _ => none
  | .count, m => some ((sizeOf? m.value).toList.map fun n : Nat => .alone (.int n) "\x60len\x60")
  | .names, m =>
      match m.value with
      | .obj ms => some (ms.map fun (k, _) => .alone (.str k) "\x60keys\x60")
      | _ => some []
  | .label, m => some [m.under (.str m.label) "\x60path\x60"]
  | .shown, m => if m.value.isShort then some [.alone (.str m.value.shown) thisLabel] else none
  | .split c i n, m =>
      some ((splitValue m.value c i n).toList.map fun v => .alone v thisLabel)
  | .replace a b, m =>
      match replaced m.value a b with
      | none => none
      | some v => some (if same v m.value then [] else [.alone v thisLabel])
  | .compute op (.value l) (.value r), _ =>
      (combineAll op [(l, r)]).map fun vs => vs.map (.alone · thisLabel)
  | .compute op (.path p) (.value r), m =>
      match select p m with
      | none => none
      | some ms => (combineAll op (ms.map fun n => (n.value, r))).map fun vs =>
          vs.map (.alone · thisLabel)
  | .compute op (.value l) (.path q), m =>
      match select q m with
      | none => none
      | some ms => (combineAll op (ms.map fun n => (l, n.value))).map fun vs =>
          vs.map (.alone · thisLabel)
  | .compute op (.path p) (.path q), m =>
      match select p m, select q m with
      | some ms, some ns =>
          if ms.length = ns.length then
            (combineAll op ((ms.map (·.value)).zip (ns.map (·.value)))).map fun vs =>
              vs.map (.alone · thisLabel)
          else some []
      | _, _ => none
def holds : Test → Place → Option Bool
  | .selects p, m => (select p m).map fun ms => !ms.isEmpty
  | .compare op p (.value v), m =>
      match select p m with
      | none => none
      | some ms => compareSelections op (ms.map (·.value)) [v]
  | .compare op p (.path q), m =>
      match select p m, select q m with
      | some ms, some ns => compareSelections op (ms.map (·.value)) (ns.map (·.value))
      | _, _ => none
  | .both s t, m =>
      match holds s m with
      | some true => holds t m
      | r => r
  | .either s t, m =>
      match holds s m with
      | some false => holds t m
      | r => r
  | .fails t, m => (holds t m).map (!·)
/-- How two places compare by sort keys: the first key by which they differ. -/
def orderBy : SortKeys → Place → Place → Option Ordering
  | .done, _, _ => some .eq
  | .key p down more, m, n =>
      match select p m, select p n with
      | some [a], some [b] =>
          if same a.value b.value then orderBy more m n
          else (order? a.value b.value).map fun o => if down then o.swap else o
      | some _, some _ => orderBy more m n
      | _, _ => none
end

def values (p : Path) (root : Json) : List Json :=
  match select p (.alone root "$") with
  | some ms => ms.map (·.value)
  | none => []

end Path

end Gleaner.Json
