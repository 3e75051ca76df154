/-
  Gleaner/Text/Utf8.lean
  ======================
  **UTF-8.**  Decoding reads one character or finds a flaw: the bytes that cannot
  be part of a character, and why.  Strict decoding reports the first flaw;
  lenient decoding puts a replacement character in the place of each.
-/
import Gleaner.Text.Digits

namespace Gleaner.Text.Utf8

def encode (s : List Char) : List UInt8 := s.flatMap String.utf8EncodeChar

inductive Flaw where
  | startByte
  | continuationByte
  | unexpectedEnd
deriving DecidableEq, Repr

def Flaw.describe : Flaw → String
  | .startByte => "invalid start byte"
  | .continuationByte => "invalid continuation byte"
  | .unexpectedEnd => "unexpected end of data"

/-- What stands at the front of some bytes: a character of `width` bytes, or a flaw
    of that many bytes. -/
inductive Front where
  | char (c : Char) (width : Nat)
  | flaw (f : Flaw) (width : Nat)
deriving DecidableEq, Repr

def isTail (b : UInt8) : Bool := 0x80 ≤ b && b ≤ 0xBF

def tailBits (b : UInt8) : Nat := b.toNat % 64

/-- The bytes that may follow the start byte of a character of three or four bytes. -/
def secondRange (b : UInt8) : UInt8 × UInt8 :=
  if b == 0xE0 then (0xA0, 0xBF)
  else if b == 0xED then (0x80, 0x9F)
  else if b == 0xF0 then (0x90, 0xBF)
  else if b == 0xF4 then (0x80, 0x8F)
  else (0x80, 0xBF)

def fitsSecond (b c : UInt8) : Bool := (secondRange b).1 ≤ c && c ≤ (secondRange b).2

def front (b : UInt8) (rest : List UInt8) : Front :=
  if b < 0x80 then .char (Char.ofNat b.toNat) 1
  else if b < 0xC2 || 0xF4 < b then .flaw .startByte 1
  else if b < 0xE0 then
    match rest with
    | [] => .flaw .unexpectedEnd 1
    | c :: _ =>
        if isTail c then .char (Char.ofNat ((b.toNat % 32) * 64 + tailBits c)) 2
        else .flaw .continuationByte 1
  else if b < 0xF0 then
    match rest with
    | [] => .flaw .unexpectedEnd 1
    | [c] => if fitsSecond b c then .flaw .unexpectedEnd 2 else .flaw .continuationByte 1
    | c :: d :: _ =>
        if !fitsSecond b c then .flaw .continuationByte 1
        else if !isTail d then .flaw .continuationByte 2
        else .char (Char.ofNat ((b.toNat % 16) * 4096 + tailBits c * 64 + tailBits d)) 3
  else
    match rest with
    | [] => .flaw .unexpectedEnd 1
    | [c] => if fitsSecond b c then .flaw .unexpectedEnd 2 else .flaw .continuationByte 1
    | [c, d] =>
        if !fitsSecond b c then .flaw .continuationByte 1
        else if !isTail d then .flaw .continuationByte 2
        else .flaw .unexpectedEnd 3
    | c :: d :: e :: _ =>
        if !fitsSecond b c then .flaw .continuationByte 1
        else if !isTail d then .flaw .continuationByte 2
        else if !isTail e then .flaw .continuationByte 3
        else
          .char (Char.ofNat
            ((b.toNat % 8) * 262144 + tailBits c * 4096 + tailBits d * 64 + tailBits e)) 4

/-- A flaw with the place of its first byte and its bytes. -/
structure Report where
  flaw : Flaw
  index : Nat
  bytes : List UInt8
deriving DecidableEq, Repr

/-- The characters of bytes, in reverse before `acc`, or the first flaw; `skip`
    bytes belong to the character read last, and `index` is the place. -/
def decodeFrom : Nat → Nat → List Char → List UInt8 → Except Report (List Char)
  | _, _, acc, [] => .ok acc.reverse
  | index, skip + 1, acc, _ :: rest => decodeFrom (index + 1) skip acc rest
  | index, 0, acc, b :: rest =>
      match front b rest with
      | .char c width => decodeFrom (index + 1) (width - 1) (c :: acc) rest
      | .flaw f width => .error ⟨f, index, (b :: rest).take width⟩

/-- The text of bytes, or their first flaw. -/
def decode (bytes : List UInt8) : Except Report (List Char) := decodeFrom 0 0 [] bytes

def replacement : Char := '\uFFFD'

def decodeLenientFrom : Nat → List Char → List UInt8 → List Char
  | _, acc, [] => acc.reverse
  | skip + 1, acc, _ :: rest => decodeLenientFrom skip acc rest
  | 0, acc, b :: rest =>
      match front b rest with
      | .char c width => decodeLenientFrom (width - 1) (c :: acc) rest
      | .flaw _ width => decodeLenientFrom (width - 1) (replacement :: acc) rest

def decodeLenient (bytes : List UInt8) : List Char := decodeLenientFrom 0 [] bytes

def undecodable (codec : String) (index : Nat) (bytes : List UInt8) (reason : String) : String :=
  let what :=
    match bytes with
    | [b] => "byte 0x" ++ String.ofList (hexText 2 b.toNat) ++ " in position " ++ toString index
    | _ => "bytes in position " ++ toString index ++ "-" ++ toString (index + bytes.length - 1)
  "'" ++ codec ++ "' codec can't decode " ++ what ++ ": " ++ reason

def Report.message (r : Report) : String := undecodable "utf-8" r.index r.bytes r.flaw.describe

end Gleaner.Text.Utf8
