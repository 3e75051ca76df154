/-
  Gleaner/Page/Sniff.lean
  =======================
  **Telling Json from markup.**  A body is Json when the first character that is
  neither a byte order mark at the front nor a blank opens an object or an array.
-/
import Gleaner.Text.Blank

namespace Gleaner

/-- A response body: text, or bytes whose encoding has to be found out. -/
inductive Body where
  | text (s : String)
  | bytes (b : List UInt8)

namespace Body

def mark : Char := '\uFEFF'

def markBytes : List UInt8 := [0xEF, 0xBB, 0xBF]

def looksLikeJson : Body → Bool
  | .text s =>
      match (s.toList.dropWhile (· == mark)).dropWhile Text.isBlank with
      | c :: _ => c == '\x7b' || c == '['
      | [] => false
  | .bytes b =>
      match (b.dropWhile (markBytes.contains ·)).dropWhile Text.isByteBlank with
      | c :: _ => c == 0x7b || c == 0x5b
      | [] => false

end Body

end Gleaner
