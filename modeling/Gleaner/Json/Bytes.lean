/-
  Gleaner/Json/Bytes.lean
  =======================
  **Json in bytes.**  Json starts with two ASCII characters, so the zero bytes among
  the first four tell how wide its characters are.  A byte order mark takes
  precedence.  Half of a surrogate pair is no flaw here; a replacement stands for it.
-/
import Gleaner.Text.Charset.Basic

namespace Gleaner.Json

open Text (Charset)

/-- The encoding of some bytes of Json, and the bytes after a byte order mark. -/
def charsetOf (bytes : List UInt8) : Charset × List UInt8 :=
  match bytes with
  | 0 :: 0 :: 0xFE :: 0xFF :: rest => (.utf32 true, rest)
  | 0xFF :: 0xFE :: 0 :: 0 :: rest => (.utf32 false, rest)
  | 0xFE :: 0xFF :: rest => (.utf16 true, rest)
  | 0xFF :: 0xFE :: rest => (.utf16 false, rest)
  | 0xEF :: 0xBB :: 0xBF :: rest => (.utf8, rest)
  | a :: b :: c :: d :: _ =>
      if a == 0 then (if b == 0 then .utf32 true else .utf16 true, bytes)
      else if b == 0 then (if c == 0 && d == 0 then .utf32 false else .utf16 false, bytes)
      else (.utf8, bytes)
  | [a, b] => (if a == 0 then .utf16 true else if b == 0 then .utf16 false else .utf8, bytes)
  | _ => (.utf8, bytes)

def charsetLabel : Charset → String
  | .utf16 bigEndian => if bigEndian then "utf-16-be" else "utf-16-le"
  | .utf32 bigEndian => if bigEndian then "utf-32-be" else "utf-32-le"
  | _ => "utf-8"

def unitProblem (width : Nat) (flawed : List UInt8) : String :=
  if flawed.length < width then "truncated data"
  else if width == 4 then "code point not in range(0x110000)"
  else "illegal encoding"

def isHalfPair (charset : Charset) (flawed : List UInt8) : Bool :=
  let half (b : UInt8) : Bool := 0xD8 ≤ b && b ≤ 0xDF
  match charset, flawed with
  | .utf16 _, _ :: _ :: _ => true
  | .utf32 true, [0, 0, b, _] => half b
  | .utf32 false, [_, b, 0, 0] => half b
  | _, _ => false

/-- UTF-8 with halves of surrogate pairs, which have three bytes there, replaced. -/
def withoutHalfPairs : List UInt8 → List UInt8
  | a :: b :: c :: rest =>
      if a == 0xED && 0xA0 ≤ b && Text.Utf8.isTail b && Text.Utf8.isTail c then
        0xEF :: 0xBF :: 0xBD :: withoutHalfPairs rest
      else a :: withoutHalfPairs (b :: c :: rest)
  | bytes => bytes

/-- The characters of units of `width` bytes, in reverse before `acc`, or the sentence
    on the first flaw; `skip` bytes belong to the unit read last. -/
def unitsFrom (charset : Charset) (width : Nat) :
    Nat → Nat → List Char → List UInt8 → Except String (List Char)
  | _, _, acc, [] => .ok acc.reverse
  | index, skip + 1, acc, _ :: rest => unitsFrom charset width (index + 1) skip acc rest
  | index, 0, acc, b :: rest =>
      match charset.piece b rest with
      | .char c size => unitsFrom charset width (index + 1) (size - 1) (c :: acc) rest
      | .flaw size =>
          let flawed := (b :: rest).take size
          if isHalfPair charset flawed then
            unitsFrom charset width (index + 1) (width - 1) (Text.Utf8.replacement :: acc) rest
          else .error (Text.Utf8.undecodable (charsetLabel charset) index flawed
            (unitProblem width flawed))

/-- The text of bytes of Json, or the sentence on why they have none. -/
def textOfBytes (bytes : List UInt8) : Except String (List Char) :=
  let (charset, rest) := charsetOf bytes
  match charset with
  | .utf16 _ => unitsFrom charset 2 0 0 [] rest
  | .utf32 _ => unitsFrom charset 4 0 0 [] rest
  | _ => (Text.Utf8.decode (withoutHalfPairs rest)).mapError (·.message)

end Gleaner.Json
