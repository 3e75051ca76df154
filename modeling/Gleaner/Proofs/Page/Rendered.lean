/-
  Gleaner/Proofs/Page/Rendered.lean
  =================================
  **Objects shown and received again.**  An object is shown as its shortest Json text.  The
  text opens with a brace, so that it is taken for data whether it comes as text or as the
  bytes of UTF-8, and what is read is the object, with its members in the same order
  (`shown_object_is_page`).
-/
import Gleaner.Page.Basic
import Gleaner.Proofs.Json.Bytes
import Gleaner.Proofs.Json.Printed

namespace Gleaner

namespace Json

/-! ### Showing -/

mutual
/-- A plain value can be written. -/
theorem isShort_of_plain {points : Bool} : ∀ v : Json, v.isPlain points = true → v.isShort = true
  | .null, _ => rfl
  | .bool _, _ => rfl
  | .int _, h => h
  | .real _, _ => rfl
  | .str _, _ => rfl
  | .arr vs, h => by
    rw [isPlain] at h
    rw [isShort, areShort_of_plain vs h]
  | .obj ms, h => by
    rw [isPlain, Bool.and_eq_true] at h
    rw [isShort, membersShort_of_plain ms h.2]
theorem areShort_of_plain {points : Bool} :
    ∀ vs : List Json, arePlain points vs = true → areShort vs = true
  | [], _ => rfl
  | v :: vs, h => by
    rw [arePlain, Bool.and_eq_true] at h
    rw [areShort, isShort_of_plain v h.1, areShort_of_plain vs h.2]
    rfl
theorem membersShort_of_plain {points : Bool} :
    ∀ ms : Members, arePlainMembers points ms = true → membersShort ms = true
  | [], _ => rfl
  | (k, v) :: ms, h => by
    rw [arePlainMembers, Bool.and_eq_true] at h
    rw [membersShort, isShort_of_plain v h.1, membersShort_of_plain ms h.2]
    rfl
end

theorem asText_plain {points : Bool} {v : Json} (h : v.isPlain points = true) :
    v.asText = .ok v.stringify := by
  rw [asText, isShort_of_plain v h, if_pos rfl]

/-- An object opens with a brace, and then comes its other brace or the quote of a name. -/
theorem stringify_obj_front (ms : Members) :
    ∃ d s, (stringify (.obj ms)).toList = '{' :: d :: s ∧ (d = '}' ∨ d = '\x22') := by
  rw [stringify, compact, String.toList_ofList, lineChars]
  rcases ms with _ | ⟨_, _ | ⟨_, _⟩⟩
  · exact ⟨_, _, rfl, .inl rfl⟩
  · exact ⟨_, _, rfl, .inr rfl⟩
  · exact ⟨_, _, rfl, .inr rfl⟩

/-- A text that was read did not start with a byte order mark. -/
theorem readDocument_of_parse {s : List Char} {v : Json} (h : parse s = .ok v) :
    readDocument s = .ok v := by
  unfold parse at h
  split at h
  · cases h
  · exact h

end Json

/-! ### Receiving -/

namespace Page

/-- A text that opens with a brace is taken for data. -/
theorem read_text_brace {text : String} {s : List Char} {v : Json} (hfront : text.toList = '{' :: s)
    (hread : Json.parse text.toList = .ok v) :
    (Body.text text).looksLikeJson = true ∧ read (.text text) = .ok (.data v) := by
  have hjson : (Body.text text).looksLikeJson = true := by
    rw [Body.looksLikeJson, hfront]
    rfl
  have hmark : text.toList.dropWhile (· == Body.mark) = text.toList := by
    rw [hfront]
    rfl
  refine ⟨hjson, ?_⟩
  rw [read.eq_1 _ hjson, hmark, readJson, Json.readDocument_of_parse hread]

/-- So are its bytes, and they hold the same. -/
theorem read_bytes_brace {d : Char} {s : List Char} {v : Json} (hd : d ≠ '\x00')
    (hread : Json.parse ('{' :: d :: s) = .ok v) :
    (Body.bytes (Text.Utf8.encode ('{' :: d :: s))).looksLikeJson = true
      ∧ read (.bytes (Text.Utf8.encode ('{' :: d :: s))) = .ok (.data v) := by
  have hjson : (Body.bytes (Text.Utf8.encode ('{' :: d :: s))).looksLikeJson = true := by
    rw [Text.Utf8.encode_ascii (by decide)]
    rfl
  refine ⟨hjson, ?_⟩
  rw [read.eq_2 _ hjson, Json.textOfBytes_encode hd]
  dsimp only
  rw [readJson, Json.readDocument_of_parse hread]

/-- The text of an object without numbers with a point opens with a brace, and as a page, from
    the text and from its bytes, it is the object again. -/
theorem shown_object_is_page {ms : Json.Members} (h : (Json.obj ms).isPlain false = true) :
    ∃ text : String, Json.asText (.obj ms) = .ok text ∧ text = Json.stringify (.obj ms)
      ∧ text.toList.head? = some '{'
      ∧ (Body.text text).looksLikeJson = true
      ∧ read (.text text) = .ok (.data (.obj ms))
      ∧ (Body.bytes (Text.Utf8.encode text.toList)).looksLikeJson = true
      ∧ read (.bytes (Text.Utf8.encode text.toList)) = .ok (.data (.obj ms)) := by
  obtain ⟨d, s, hfront, hd⟩ := Json.stringify_obj_front ms
  have hzero : d ≠ '\x00' := by rcases hd with rfl | rfl <;> decide
  have hread : Json.parse (Json.stringify (.obj ms)).toList = .ok (.obj ms) := by
    rw [Json.stringify, Json.parse_compact h, Json.reread_plain _ h]
  obtain ⟨htext, hpage⟩ := read_text_brace hfront hread
  rw [hfront] at hread
  obtain ⟨hbytes, hpage'⟩ := read_bytes_brace hzero hread
  rw [← hfront] at hbytes hpage'
  exact ⟨_, Json.asText_plain h, rfl, by rw [hfront]; rfl, htext, hpage, hbytes, hpage'⟩

/-- An object with quotes, control characters, letters beyond ASCII, a large number and empty
    parts inside each other. -/
def nestedMembers : Json.Members :=
  [("书 \"a\"", .str "\\\n\x01😀"), ("", .arr [.arr [], .obj [], .null, .bool true]),
   ("n", .obj [("n", .int (-123456789012345678901234567890))])]

theorem nested_object_is_page :
    (Json.obj nestedMembers).isPlain false = true
      ∧ ∃ text : String, Json.asText (.obj nestedMembers) = .ok text
        ∧ read (.text text) = .ok (.data (.obj nestedMembers))
        ∧ read (.bytes (Text.Utf8.encode text.toList)) = .ok (.data (.obj nestedMembers)) := by
  have hplain : (Json.obj nestedMembers).isPlain false = true := by decide
  obtain ⟨text, htext, -, -, -, hpage, -, hpage'⟩ := shown_object_is_page hplain
  exact ⟨hplain, text, htext, hpage, hpage'⟩

end Page

end Gleaner
