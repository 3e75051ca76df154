/-
  Gleaner/Selector/Limit.lean
  ===========================
  **Inputs with limits.**  Dates, times and numbers are read from the texts of
  attributes.  A value that cannot be read breaks no limit.
-/
import Gleaner.Decimal.Read
import Gleaner.Text.Digits
import Gleaner.Selector.Value

namespace Gleaner.Selector

/-- A value of an input: the parts of a date or a time, the largest first, or a
    number. -/
inductive InputValue where
  | parts (ps : List Nat)
  | real (x : Binary64)

/-! ### The calendar -/

def isLeapYear (y : Nat) : Bool := (y % 4 == 0 && y % 100 != 0) || y % 400 == 0

def daysIn (year month : Nat) : Nat :=
  if month == 2 then if isLeapYear year then 29 else 28
  else if [4, 6, 9, 11].contains month then 30
  else 31

/-- The day of the week on which a year starts, counted from Monday as zero. -/
def firstWeekday (year : Nat) : Nat :=
  let y := year - 1
  (y + y / 4 - y / 100 + y / 400) % 7

/-- The weeks of a year: 53 when it starts on a Thursday, or a day earlier in a leap
    year, or when its last day is in the first week of the next year.  No year is refused,
    although a calendar of years with four digits has none below 1000 or above 9999. -/
def weeksIn (year : Nat) : Nat :=
  let lastWeekday := (firstWeekday year + (if isLeapYear year then 1 else 0)) % 7
  if lastWeekday < 3 then 53
  else if firstWeekday year == 3 || lastWeekday == 3 then 53
  else 52

/-! ### Reading -/

def fixedDigits? (size : Nat) (s : List Char) : Option (Nat × List Char) :=
  let ds := s.take size
  if ds.length == size && ds.all Text.asciiDigit then some (Text.decimalValue ds, s.drop size)
  else none

def year? (s : List Char) : Option (Nat × List Char) :=
  let ds := s.takeWhile Text.asciiDigit
  if 4 ≤ ds.length && 1 ≤ Text.decimalValue ds then some (Text.decimalValue ds, s.drop ds.length)
  else none

def hyphenPair? : List Char → Option (Nat × List Char)
  | '-' :: s => fixedDigits? 2 s
  | _ => none

def month? (s : List Char) : Option (List Nat × List Char) :=
  match year? s with
  | some (y, r) =>
      match hyphenPair? r with
      | some (m, r) => if 1 ≤ m && m ≤ 12 then some ([y, m], r) else none
      | none => none
  | none => none

def date? (s : List Char) : Option (List Nat × List Char) :=
  match month? s with
  | some ([y, m], r) =>
      match hyphenPair? r with
      | some (d, r) => if 1 ≤ d && d ≤ daysIn y m then some ([y, m, d], r) else none
      | none => none
  | _ => none

def week? (s : List Char) : Option (List Nat × List Char) :=
  match year? s with
  | some (y, '-' :: 'W' :: r) =>
      match fixedDigits? 2 r with
      | some (w, r) => if 1 ≤ w && w ≤ weeksIn y then some ([y, w], r) else none
      | none => none
  | _ => none

def time? (s : List Char) : Option (List Nat × List Char) :=
  match fixedDigits? 2 s with
  | some (h, ':' :: r) =>
      match fixedDigits? 2 r with
      | some (m, r) => if h ≤ 23 && m ≤ 59 then some ([h, m], r) else none
      | none => none
  | _ => none

def dateTime? (s : List Char) : Option (List Nat × List Char) :=
  match date? s with
  | some (d, 'T' :: r) => (time? r).map fun (t, r) => (d ++ t, r)
  | _ => none

def isPlainNumber (s : List Char) : Bool :=
  let body := match s with
    | '-' :: r => r
    | r => r
  let whole := body.takeWhile Text.asciiDigit
  match body.drop whole.length with
  | [] => !whole.isEmpty
  | '.' :: fraction => !fraction.isEmpty && fraction.all Text.asciiDigit
  | _ => false

def inputValue? (kind : String) (text : String) : Option InputValue :=
  let s := withoutLineEnd text.toList
  let whole (found : Option (List Nat × List Char)) : Option InputValue :=
    match found with
    | some (ps, []) => some (.parts ps)
    | _ => none
  match kind with
  | "date" => whole (date? s)
  | "month" => whole (month? s)
  | "week" => whole (week? s)
  | "time" => whole (time? s)
  | "datetime-local" => whole (dateTime? s)
  | "number" | "range" =>
      if isPlainNumber s then (Binary64.parseReal? (String.ofList s)).map .real else none
  | _ => none

/-! ### Limits -/

def partsBefore : List Nat → List Nat → Bool
  | _, [] => false
  | [], _ :: _ => true
  | a :: as, b :: bs => a < b || (a == b && partsBefore as bs)

def InputValue.before : InputValue → InputValue → Bool
  | .parts a, .parts b => partsBefore a b
  | .real x, .real y => x.compare? y == some .lt
  | _, _ => false

def beyond (limit : Option InputValue) (p : InputValue → Bool) : Bool :=
  match limit with
  | some l => p l
  | none => false

/-- An input with the given limits and value is within its limits (`some true`),
    outside, or has no limits.  Times of day go round: a lower limit after the upper
    one leaves out the time between them. -/
def withinLimits? (kind : String) (low high value : Option String) : Option Bool :=
  let low := low.bind (inputValue? kind)
  let high := high.bind (inputValue? kind)
  if low.isNone && high.isNone then none
  else
    match value.bind (inputValue? kind) with
    | none => some true
    | some v =>
        let tooLow := beyond low v.before
        let tooHigh := beyond high (·.before v)
        let reversed := kind == "time" && beyond low fun l => beyond high (·.before l)
        some !(if reversed then tooLow && tooHigh else tooLow || tooHigh)

end Gleaner.Selector
