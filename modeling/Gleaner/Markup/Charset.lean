/-
  Gleaner/Markup/Charset.lean
  ===========================
  **The encoding of a document.**  It is found, in this order, by a mark at the
  front, by what the document itself declares, or by trying: UTF-8, and then the
  common encoding of one byte.  The first that has a character for every byte counts.
  If there is none, the first is used and replacements stand for what it cannot
  read.
-/
import Gleaner.Text.Charset.Basic
import Gleaner.Text.Split

namespace Gleaner.Markup

open Text (Charset)

/-! ### Marks -/

/-- The encoding that a mark at the front states, and the bytes after the mark.  The
    marks of two bytes count only in front of a character. -/
def markedCharset? (bytes : List UInt8) : Option String × List UInt8 :=
  match bytes with
  | 0xFE :: 0xFF :: a :: b :: rest =>
      if a == 0 && b == 0 then (none, bytes) else (some "utf-16be", a :: b :: rest)
  | 0xFF :: 0xFE :: a :: b :: rest =>
      if a == 0 && b == 0 then (some "utf-32le", rest) else (some "utf-16le", a :: b :: rest)
  | 0xEF :: 0xBB :: 0xBF :: rest => (some "utf-8", rest)
  | 0 :: 0 :: 0xFE :: 0xFF :: rest => (some "utf-32be", rest)
  | _ => (none, bytes)

/-! ### Declarations -/

def isDeclarationBlank (c : Char) : Bool := Text.isMarkupBlank c || c == '\x0b'

/-- The bytes as characters, those beyond ASCII replaced, letters in their small
    form. -/
def declarationText (bytes : List UInt8) : List Char :=
  bytes.map fun b => if b < 0x80 then Text.asciiLowerChar (Char.ofNat b.toNat) else '\uFFFD'

def isDeclarationQuote (c : Char) : Bool := c == '"' || c == '\x27'

/-- The last place after the word `key` in a text at which `read` finds something. -/
def lastAfter (key : List Char) (read : List Char → Option (List Char)) :
    List Char → Option (List Char)
  | [] => none
  | c :: s =>
      match lastAfter key read s with
      | some found => some found
      | none => (Text.dropFront? key (c :: s)).bind read

def quotedInInstruction? (s : List Char) : Option (List Char) :=
  match s with
  | q :: r =>
      if isDeclarationQuote q then
        let value := r.takeWhile (!isDeclarationQuote ·)
        match r.drop value.length with
        | _ :: after => (Text.cutAt? ['?', '>'] after).map fun _ => value
        | [] => none
      else none
  | [] => none

/-- The encoding that an instruction at the very front declares. -/
def instructionCharset? (s : List Char) : Option (List Char) :=
  match s.dropWhile isDeclarationBlank with
  | '<' :: '?' :: r =>
      lastAfter "encoding=".toList quotedInInstruction? (r.takeWhile (· ≠ '\n'))
  | _ => none

def endsName (c : Char) : Bool :=
  c == ' ' || c == '/' || c == ';' || c == '>' || isDeclarationQuote c

/-- A name after the equals sign of a declaration, perhaps behind a quote.  There is none
    unless something ends it. -/
def nameAfterSign? (s : List Char) : Option (List Char) :=
  match s.dropWhile isDeclarationBlank with
  | '=' :: r =>
      let r := r.dropWhile isDeclarationBlank
      let r := match r with
        | q :: after => if isDeclarationQuote q && after.any endsName then after else q :: after
        | [] => []
      if r.any endsName then some (r.takeWhile (!endsName ·)) else none
  | _ => none

/-- The last declaration within the first `size` characters of a text. -/
def lastNameWithin? (s : List Char) : Nat → Option (List Char)
  | 0 => none
  | size + 1 =>
      match lastNameWithin? (s.drop 1) size with
      | some found => some found
      | none => (Text.dropFront? "charset".toList s).bind nameAfterSign?

/-- The encoding that the first element for remarks with a declaration declares. -/
def elementCharset? : List Char → Option (List Char)
  | [] => none
  | '<' :: s =>
      let found :=
        match Text.dropFront? "meta".toList (s.dropWhile isDeclarationBlank) with
        | some body => lastNameWithin? (body.drop 1) ((body.takeWhile (· ≠ '>')).length - 1)
        | none => none
      match found with
      | some name => some name
      | none => elementCharset? s
  | _ :: s => elementCharset? s

def declaredCharset? (bytes : List UInt8) : Option String :=
  let size := max 2048 (bytes.length / 20)
  let found :=
    match instructionCharset? (declarationText (bytes.take 1024)) with
    | some name => some name
    | none => elementCharset? (declarationText (bytes.take size))
  match found with
  | some (c :: name) => some (String.ofList (c :: name))
  | _ => none

/-! ### Reading -/

def candidateNames (bytes : List UInt8) : List String :=
  let (marked, rest) := markedCharset? bytes
  marked.toList ++ (declaredCharset? rest).toList ++ ["utf-8", "windows-1252"]

structure DocumentText where
  text : List Char
  charset : Option Charset
  /-- There was no text without replacements, or none at all. -/
  lossy : Bool

def readDocument (bytes : List UInt8) : DocumentText :=
  let rest := (markedCharset? bytes).2
  let candidates := (candidateNames bytes).filterMap fun name =>
    (Charset.ofName? name).map ((name, ·))
  match candidates.findSome? fun (_, charset) => (charset.read? rest).map (·, charset) with
  | some (text, charset) => ⟨text, some charset, text.isEmpty⟩
  | none =>
      match candidates.find? (·.1 ≠ "ascii") with
      | some (_, charset) => ⟨charset.readLenient rest, some charset, true⟩
      | none => ⟨[], none, true⟩

end Gleaner.Markup
