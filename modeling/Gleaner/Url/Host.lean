/-
  Gleaner/Url/Host.lean
  =====================
  **Hosts.**  The host of an address is four numbers, a bracketed address of colons and
  hexadecimal digits, a name in ASCII, or a name in other letters, which is asked for
  in its ASCII form.
-/
import Gleaner.Text.Case
import Gleaner.Text.Quoted
import Gleaner.Text.Split
import Gleaner.Text.Word
import Gleaner.Url.Percent
import Gleaner.Url.Punycode

namespace Gleaner.Url

inductive HostProblem where
  | notFourNumbers (host : List Char)
  | notBracketed (host : List Char)
  | notName (host : List Char)
deriving DecidableEq, Repr

def HostProblem.message : HostProblem → String
  | .notFourNumbers host => "Invalid IPv4 address: " ++ String.ofList (Text.quotedChars host)
  | .notBracketed host => "Invalid IPv6 address: " ++ String.ofList (Text.quotedChars host)
  | .notName host => "Invalid IDNA hostname: " ++ String.ofList (Text.quotedChars host)

/-! ### Four numbers -/

/-- The text is so many runs of digits with any one character between them. -/
def isNumberRuns : Nat → List Char → Bool
  | 0, _ => false
  | 1, s => !s.isEmpty && s.all Text.asciiDigit
  | n + 1, s => splitsAfterDigits n false s
where
  /-- The text starts with digits, of which `seen` says that there was one, and after
      one more character come the other runs. -/
  splitsAfterDigits (n : Nat) (seen : Bool) : List Char → Bool
    | [] => false
    | c :: s => (seen && isNumberRuns n s) || (Text.asciiDigit c && splitsAfterDigits n true s)

/-- A number of at most three digits, not above 255, with no zero in front. -/
def isOctet (s : List Char) : Bool :=
  !s.isEmpty && s.all Text.asciiDigit && decide (s.length ≤ 3)
    && (s == ['0'] || s.head? != some '0') && decide (Text.decimalValue s ≤ 255)

def isFourOctets (s : List Char) : Bool :=
  let parts := Text.splitChar '.' s
  parts.length == 4 && parts.all isOctet

/-! ### Groups and colons -/

def isHexGroup (s : List Char) : Bool :=
  !s.isEmpty && decide (s.length ≤ 4) && s.all Text.isHex

/-- The groups of an address, four octets at the end as two groups. -/
def hexGroups? (s : List Char) : Option (List (List Char)) :=
  let parts := Text.splitChar ':' s
  match parts.getLast? with
  | none => none
  | some last =>
      if parts.length < 3 then none
      else if last.contains '.' then
        if isFourOctets last then some (parts.dropLast ++ [['0'], ['0']]) else none
      else some parts

/-- The places of empty groups, the first and the last group left out. -/
def innerGaps (groups : List (List Char)) : List Nat :=
  (List.range groups.length).filter fun i =>
    decide (0 < i ∧ i + 1 < groups.length) && (groups[i]?.getD []).isEmpty

/-- Eight groups, or fewer with one gap. -/
def isGroupAddress (s : List Char) : Bool :=
  match hexGroups? s with
  | none => false
  | some groups =>
      if 9 < groups.length then false
      else
        match innerGaps groups with
        | [] => groups.length == 8 && groups.all isHexGroup
        | [gap] =>
            let front := groups.take gap
            let back := groups.drop (gap + 1)
            let front := if front == [[]] then [] else front
            let back := if back == [[]] then [] else back
            front.all isHexGroup && back.all isHexGroup && decide (front.length + back.length < 8)
        | _ => false

/-- An address of groups, perhaps with the name of a zone after a percent sign. -/
def isZonedAddress (s : List Char) : Bool :=
  !s.contains '/' &&
    match Text.cutAt? ['%'] s with
    | none => isGroupAddress s
    | some (address, zone) => !zone.isEmpty && !zone.contains '%' && isGroupAddress address

/-! ### Names -/

/-- A character that a name in ASCII keeps. -/
def isHostSafe (c : Char) : Bool :=
  isUnreserved c || "!$&'()*+,;=\"\x60\x7b\x7d%|\\".toList.contains c

/-- A character that may stand in a label: a small letter, a digit, a mark or a hyphen.  The
    tables for names are narrower: letters that are forms of others, such as the wide U+FF41 or
    the joined U+FB01, are admitted here and not there. -/
def isLabelChar (c : Char) : Bool :=
  c == '-' || (c != '_' && Text.isWordChar c && Text.lowerChar c == c)

def isLabel (s : List Char) : Bool :=
  !s.isEmpty && s.all isLabelChar && s.head? != some '-' && s.getLast? != some '-'
    && (s.drop 2).take 2 != ['-', '-']

/-- A label in ASCII, at most sixty-three characters of it. -/
def asciiLabel? (s : List Char) : Option (List Char) :=
  let plain := s.all fun c => decide (c.toNat < 128)
  let written := if plain then s else "xn--".toList ++ Punycode.encode s
  let known := isLabel s || (plain && Text.startsWith "xn--".toList s)
  if known && decide (written.length ≤ 63) then some written else none

def isLabelStop (c : Char) : Bool :=
  c == '.' || c == '\u3002' || c == '\uFF0E' || c == '\uFF61'

def labels (s : List Char) : List (List Char) :=
  Text.splitChar '.' (s.map fun c => if isLabelStop c then '.' else c)

def asciiName? (host : List Char) : Option (List Char) :=
  let all := labels (Text.lowerChars host)
  let (names, tail) := if all.getLast? == some [] then (all.dropLast, ['.']) else (all, [])
  match names.mapM asciiLabel? with
  | none => none
  | some [] => none
  | some names =>
      let name := Text.joinChar '.' names ++ tail
      if name.length ≤ 253 + tail.length then some name else none

/-- A host as it is asked for. -/
def wireHost (host : List Char) : Except HostProblem (List Char) :=
  if isNumberRuns 4 host then
    if isFourOctets host then .ok host else .error (.notFourNumbers host)
  else if host.head? == some '[' && host.getLast? == some ']' then
    let inner := (host.drop 1).dropLast
    if isZonedAddress inner then .ok inner else .error (.notBracketed host)
  else if host.all fun c => decide (c.toNat < 128) then
    .ok (percentEncodeOnce isHostSafe (Text.asciiLowerChars host))
  else
    match asciiName? host with
    | some name => .ok name
    | none => .error (.notName host)

end Gleaner.Url
