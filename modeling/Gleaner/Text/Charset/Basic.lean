/-
  Gleaner/Text/Charset/Basic.lean
  ===============================
  **Encodings of text.**  Reading bytes in an encoding goes piece by piece: at the
  front of some bytes stands a character, or a flaw.  Strict reading refuses flaws,
  lenient reading puts a replacement character in the place of each.
-/
import Std.Data.HashMap
import Gleaner.Text.Utf8
import Gleaner.Text.Case
import Gleaner.Text.Charset.Names
import Gleaner.Text.Charset.SingleByte
import Gleaner.Text.Charset.Chinese
import Gleaner.Text.Charset.Japanese
import Gleaner.Text.Charset.Korean

namespace Gleaner.Text

inductive ChineseSet where
  /-- The oldest set, of common characters. -/
  | common
  | extended
  /-- Every character, some of them in four bytes. -/
  | full
deriving DecidableEq, Repr

inductive Charset where
  | utf8
  | ascii
  | latin1
  | singleByte (name : String)
  | utf16 (bigEndian : Bool)
  | utf32 (bigEndian : Bool)
  | chinese (set : ChineseSet)
  | traditional
  /-- Japanese with first bytes among the letters (`shifted`), or with high bytes
      alone. -/
  | japanese (shifted : Bool)
  | korean
deriving DecidableEq, Repr

/-- What stands at the front of some bytes: a character or a flaw of so many bytes. -/
inductive Piece where
  | char (c : Char) (width : Nat)
  | flaw (width : Nat)
deriving DecidableEq, Repr

namespace Charset

/-! ### Tables -/

/-- The characters that an entry of a table of one byte stands for. -/
def entryCells (entry : List Char) : List Char :=
  match entry with
  | '-' :: count => List.replicate (hexNumber count) Utf8.replacement
  | _ =>
      let (first, extra) := entry.span (· ≠ '+')
      (List.range (hexNumber (extra.drop 1) + 1)).map fun i => Char.ofNat (hexNumber first + i)

/-- The characters from 0x80 on of every encoding of one byte. -/
def singleByteCells : Std.HashMap String (Array Char) :=
  Std.HashMap.ofList (singleByteTables.map fun (name, table) =>
    (name, ((table.flatMap words).flatMap fun entry => entryCells entry.toList).toArray))

def chineseCells : Array Char := (chineseTable.flatMap String.toList).toArray

def traditionalCells : Array Char := (traditionalTable.flatMap String.toList).toArray

def japaneseCells : Array Char := (japaneseTable.flatMap String.toList).toArray

def koreanCells : Array Char := (koreanTable.flatMap String.toList).toArray

def numberPairs (table : List String) : List (Nat × Nat) :=
  (table.flatMap words).map fun entry =>
    let (a, b) := entry.toList.span (· ≠ '+')
    (hexNumber a, hexNumber (b.drop 1))

/-- The pairs of bytes that only the full Chinese set has, as numbers. -/
def chineseExtraCells : Std.HashMap Nat Nat := Std.HashMap.ofList (numberPairs chineseExtras)

/-- The runs of characters in four bytes, last first. -/
def chineseRunsBack : List (Nat × Nat) := (numberPairs chineseRuns).reverse

/-! ### Pieces -/

def within (lo hi : Nat) (b : UInt8) : Bool := lo ≤ b.toNat && b.toNat ≤ hi

def isPlain (b : UInt8) : Bool := b < 0x80

/-- The character of a byte below 0x80, or of one byte of the first 256 characters. -/
def plainChar (b : UInt8) : Char := Char.ofNat b.toNat

def cellPiece (cells : Array Char) (index : Nat) : Piece :=
  match cells[index]? with
  | some c => if c = Utf8.replacement then .flaw 1 else .char c 2
  | none => .flaw 1

/-- The character in four bytes with a number, counted from the first combination. -/
def chineseRunChar? (n : Nat) : Option Char :=
  if 189000 ≤ n then
    let code := n - 189000 + 0x10000
    if code ≤ 0x10FFFF then some (Char.ofNat code) else none
  else if 39420 ≤ n then none
  else (chineseRunsBack.find? (·.1 ≤ n)).map fun (first, code) => Char.ofNat (code + (n - first))

/-- A Chinese character in four bytes; `rest` follows the first of them. -/
def chineseQuad (b : UInt8) (rest : List UInt8) : Piece :=
  match rest with
  | c :: d :: e :: _ =>
      if within 0x81 0xFE d && within 0x30 0x39 e then
        let n := ((b.toNat - 0x81) * 10 + (c.toNat - 0x30)) * 1260
          + (d.toNat - 0x81) * 10 + (e.toNat - 0x30)
        match chineseRunChar? n with
        | some x => .char x 4
        | none => .flaw 1
      else .flaw 1
  | _ => .flaw (rest.length + 1)

/-- A pair of bytes that the common set does not have although it is in its rows. -/
def beyondCommon (b c : UInt8) : Bool :=
  (b == 0xA2 && within 0xA1 0xAA c) || (b == 0xA6 && within 0xE0 0xF5 c)
    || (b == 0xA8 && within 0xBB 0xC0 c)

def chinesePiece (set : ChineseSet) (b : UInt8) (rest : List UInt8) : Piece :=
  match rest with
  | [] => .flaw 1
  | c :: _ =>
      let cell := cellPiece chineseCells ((b.toNat - 0x81) * 191 + (c.toNat - 0x40))
      match set with
      | .common =>
          if !(within 0xA1 0xF7 b && within 0xA1 0xFE c) || beyondCommon b c then .flaw 1
          else if b == 0xA1 && c == 0xA4 then .char '\u30FB' 2
          else if b == 0xA1 && c == 0xAA then .char '\u2015' 2
          else cell
      | .extended => if within 0x81 0xFE b && within 0x40 0xFE c then cell else .flaw 1
      | .full =>
          if !within 0x81 0xFE b then .flaw 1
          else if within 0x30 0x39 c then chineseQuad b rest
          else if !within 0x40 0xFE c then .flaw 1
          else
            match chineseExtraCells[b.toNat * 256 + c.toNat]? with
            | some code => .char (Char.ofNat code) 2
            | none => cell

def traditionalPiece (b : UInt8) : List UInt8 → Piece
  | [] => .flaw 1
  | c :: _ =>
      if !within 0xA1 0xF9 b then .flaw 1
      else if within 0x40 0x7E c then
        cellPiece traditionalCells ((b.toNat - 0xA1) * 157 + (c.toNat - 0x40))
      else if within 0xA1 0xFE c then
        cellPiece traditionalCells ((b.toNat - 0xA1) * 157 + (c.toNat - 0xA1) + 63)
      else .flaw 1

/-- The narrow form of a Japanese syllable. -/
def narrowChar (b : UInt8) : Char := Char.ofNat (0xFF61 + (b.toNat - 0xA1))

/-- A Japanese character with a first byte among the letters. -/
def shiftedPiece (b : UInt8) (rest : List UInt8) : Piece :=
  if within 0xA1 0xDF b then .char (narrowChar b) 1
  else if !(within 0x81 0x9F b || within 0xE0 0xFC b) then .flaw 1
  else
    match rest with
    | [] => .flaw 1
    | c :: _ =>
        if !(within 0x40 0x7E c || within 0x80 0xFC c) then .flaw 1
        else
          let lead := if b.toNat < 0xA0 then b.toNat - 0x81 else b.toNat - 0xC1
          let column := if c.toNat < 0x7F then c.toNat - 0x40 else c.toNat - 0x41
          cellPiece japaneseCells (lead * 188 + column)

/-- A character of a table of rows and cells in two high bytes. -/
def highPiece (cells : Array Char) (b : UInt8) : List UInt8 → Piece
  | [] => .flaw 1
  | c :: _ =>
      if within 0xA1 0xFE b && within 0xA1 0xFE c then
        cellPiece cells ((b.toNat - 0xA1) * 94 + (c.toNat - 0xA1))
      else .flaw 1

def highJapanesePiece (b : UInt8) (rest : List UInt8) : Piece :=
  if b == 0x8E then
    match rest with
    | [] => .flaw 1
    | c :: _ => if within 0xA1 0xDF c then .char (narrowChar c) 2 else .flaw 1
  else highPiece japaneseCells b rest

def pairNumber (bigEndian : Bool) (a b : UInt8) : Nat :=
  if bigEndian then a.toNat * 256 + b.toNat else b.toNat * 256 + a.toNat

def utf16Piece (bigEndian : Bool) (a : UInt8) : List UInt8 → Piece
  | [] => .flaw 1
  | b :: rest =>
      let n := pairNumber bigEndian a b
      if n < 0xD800 || 0xDFFF < n then .char (Char.ofNat n) 2
      else if 0xDC00 ≤ n then .flaw 2
      else
        match rest with
        | c :: d :: _ =>
            let m := pairNumber bigEndian c d
            if 0xDC00 ≤ m && m ≤ 0xDFFF then
              .char (Char.ofNat (0x10000 + (n - 0xD800) * 0x400 + (m - 0xDC00))) 4
            else .flaw 2
        | _ => .flaw (rest.length + 2)

def utf32Piece (bigEndian : Bool) (a : UInt8) (rest : List UInt8) : Piece :=
  match rest with
  | b :: c :: d :: _ =>
      let n :=
        if bigEndian then pairNumber true a b * 65536 + pairNumber true c d
        else pairNumber false c d * 65536 + pairNumber false a b
      if 0x10FFFF < n || (0xD800 ≤ n && n ≤ 0xDFFF) then .flaw 4 else .char (Char.ofNat n) 4
  | _ => .flaw (rest.length + 1)

def piece (charset : Charset) (b : UInt8) (rest : List UInt8) : Piece :=
  match charset with
  | .utf8 =>
      match Utf8.front b rest with
      | .char c width => .char c width
      | .flaw _ width => .flaw width
  | .latin1 => .char (plainChar b) 1
  | .utf16 bigEndian => utf16Piece bigEndian b rest
  | .utf32 bigEndian => utf32Piece bigEndian b rest
  | .ascii => if isPlain b then .char (plainChar b) 1 else .flaw 1
  | .singleByte name =>
      if isPlain b then .char (plainChar b) 1
      else
        match cellPiece (singleByteCells.getD name #[]) (b.toNat - 0x80) with
        | .char c _ => .char c 1
        | .flaw width => .flaw width
  | .chinese set => if isPlain b then .char (plainChar b) 1 else chinesePiece set b rest
  | .traditional => if isPlain b then .char (plainChar b) 1 else traditionalPiece b rest
  | .japanese shifted =>
      if isPlain b then .char (plainChar b) 1
      else if shifted then shiftedPiece b rest
      else highJapanesePiece b rest
  | .korean => if isPlain b then .char (plainChar b) 1 else highPiece koreanCells b rest

/-! ### Reading -/

/-- The characters of bytes, in reverse before `acc`; `skip` bytes belong to the piece
    read last.  Flaws are refused unless `lenient`. -/
def readFrom (charset : Charset) (lenient : Bool) :
    Nat → List Char → List UInt8 → Option (List Char)
  | _, acc, [] => some acc.reverse
  | skip + 1, acc, _ :: rest => readFrom charset lenient skip acc rest
  | 0, acc, b :: rest =>
      match charset.piece b rest with
      | .char c width => readFrom charset lenient (width - 1) (c :: acc) rest
      | .flaw width =>
          if lenient then readFrom charset lenient (width - 1) (Utf8.replacement :: acc) rest
          else none

def read? (charset : Charset) (bytes : List UInt8) : Option (List Char) :=
  readFrom charset false 0 [] bytes

def readLenient (charset : Charset) (bytes : List UInt8) : List Char :=
  (readFrom charset true 0 [] bytes).getD []

/-! ### Names -/

def ofLeadingName? : String → Option Charset
  | "utf_8" => some .utf8
  | "ascii" => some .ascii
  | "latin_1" => some .latin1
  | "utf_16_le" => some (.utf16 false)
  | "utf_16_be" => some (.utf16 true)
  | "utf_32_le" => some (.utf32 false)
  | "utf_32_be" => some (.utf32 true)
  | "gb2312" => some (.chinese .common)
  | "gbk" => some (.chinese .extended)
  | "gb18030" => some (.chinese .full)
  | "big5" => some .traditional
  | "shift_jis" => some (.japanese true)
  | "euc_jp" => some (.japanese false)
  | "euc_kr" => some .korean
  | name => if singleByteCells.contains name then some (.singleByte name) else none

/-- Every name of an encoding with its leading name; `lead` is the leading name of the
    list being read. -/
def namePairs (lead : Option String) : List String → List (String × String)
  | [] => []
  | ";" :: more => namePairs none more
  | name :: more =>
      let lead := lead.getD name
      (name, lead) :: namePairs (some lead) more

def leadingNames : Std.HashMap String String :=
  Std.HashMap.ofList (namePairs none (charsetNames.flatMap words))

def isCharsetNameChar (c : Char) : Bool := asciiLetter c || asciiDigit c || c == '.'

/-- A name with everything between its parts replaced by one underscore. -/
def plainName (name : String) : String :=
  "_".intercalate
    ((runsBy (!isCharsetNameChar ·) (asciiLowerChars name.toList) []).map String.ofList)

def ofPlainName? (name : String) : Option Charset :=
  leadingNames[plainName name]?.bind ofLeadingName?

/-- The encoding of a name, hyphens left out if need be. -/
def ofName? (name : String) : Option Charset :=
  let name :=
    if name == "macintosh" then "mac-roman" else if name == "x-sjis" then "shift-jis" else name
  match ofPlainName? name with
  | some charset => some charset
  | none => ofPlainName? (String.ofList (name.toList.filter (· ≠ '-')))

def single? (charset : Charset) (n : Nat) : Option Char :=
  match charset.read? [UInt8.ofNat n] with
  | some [c] => some c
  | _ => none

end Charset

end Gleaner.Text
