/-
  Gleaner/Proofs/Page/Outcome.lean
  ================================
  **What becomes of a body.**  A body is read, as data exactly if it looks like data, or it
  is refused as unreadable, in the words for data or for documents; the one other end is a
  long number in what looks like data, and this end comes exactly if such a number is met
  (`read_outcome`).
-/
import Gleaner.Proofs.Json.LongNumber
import Gleaner.Proofs.Page.Fault

namespace Gleaner

/-- The text that is read as data, if the body looks like data: the text without the byte
    order marks at its front, or the text of the bytes. -/
inductive Body.Holds : Body → List Char → Prop
  | text {s : String} (hjson : (Body.text s).looksLikeJson = true) :
      Holds (.text s) (s.toList.dropWhile (· == Body.mark))
  | bytes {b : List UInt8} {s : List Char} (hjson : (Body.bytes b).looksLikeJson = true)
      (hs : Json.textOfBytes b = .ok s) : Holds (.bytes b) s

/-- The body looks like data and comes to a whole number with this many digits, more than are
    taken. -/
def Body.MeetsNumber (body : Body) (n : Nat) : Prop := ∃ s, body.Holds s ∧ Json.Meets n .value s

namespace Page

def refusal (data : Bool) (reason : String) : Fault :=
  .unreadable ((if data then "Response looks like JSON but failed to decode: "
    else "HTML parser rejected the response: ") ++ reason) none

/-! ### Data -/

section
variable {s : List Char}

theorem readJson_long {n : Nat} (h : Json.Meets n .value s) :
    readJson s = .error (.badValue (Text.digitLimitText n)) := by
  obtain ⟨r, hread⟩ := Json.readDocument_tooManyDigits.mpr h
  rw [readJson, hread]

theorem readDocument_of_readJson {root : Json} (h : readJson s = .ok (.data root)) :
    Json.readDocument s = .ok root := by
  unfold readJson at h
  split at h
  · next hread =>
    cases h
    exact hread
  · split at h <;> cases h

/-- Without a long number a text is read as data or refused. -/
theorem readJson_outcome (h : ∀ n, ¬ Json.Meets n .value s) :
    (∃ v, readJson s = .ok (.data v)) ∨ ∃ reason, readJson s = .error (refusal true reason) := by
  unfold readJson
  split
  · next v _ => exact .inl ⟨v, rfl⟩
  · next f hread =>
    split
    · next digits hlong =>
      obtain ⟨problem, rest⟩ := f
      cases hlong
      exact absurd (Json.readDocument_tooManyDigits.mp ⟨rest, hread⟩) (h digits)
    · exact .inr ⟨_, rfl⟩

end

/-! ### Documents -/

/-- A document is read or refused. -/
theorem readMarkup_outcome (single : Nat → Option Char) (s : List Char) :
    (∃ root, readMarkup single s = .ok (.document root))
      ∨ ∃ reason, readMarkup single s = .error (refusal false reason) := by
  cases hread : readMarkup single s with
  | error e =>
    obtain ⟨reason, rfl⟩ := readMarkup_fault single s e hread
    exact .inr ⟨reason, rfl⟩
  | ok page =>
    unfold readMarkup at hread
    split at hread
    · cases hread
      exact .inl ⟨_, rfl⟩
    · cases hread
    · cases hread

/-! ### Bodies -/

/-- What a body comes to if no long number is met in it. -/
def Settles (body : Body) : Prop :=
  (∃ page, read body = .ok page ∧ page.isData = body.looksLikeJson)
    ∨ ∃ reason, read body = .error (refusal body.looksLikeJson reason)

section
variable {body : Body}

/-- What looks like data is read from the text that it holds. -/
theorem read_holds {s : List Char} (h : body.Holds s) :
    body.looksLikeJson = true ∧ read body = readJson s := by
  cases h with
  | text hjson => exact ⟨hjson, read.eq_1 _ hjson⟩
  | bytes hjson hs => exact ⟨hjson, by rw [read.eq_2 _ hjson, hs]⟩

theorem settles_of_holds {s : List Char} (h : body.Holds s) (hlong : ∀ n, ¬ Json.Meets n .value s) :
    Settles body := by
  obtain ⟨hjson, hread⟩ := read_holds h
  rw [Settles, hread, hjson]
  exact (readJson_outcome hlong).imp_left fun ⟨v, hv⟩ => ⟨_, hv, rfl⟩

theorem settles_document (hjson : body.looksLikeJson = false) : Settles body := by
  have hread : ∃ single s, read body = readMarkup single s := by
    cases body with
    | text s => exact ⟨_, _, read.eq_3 _ hjson⟩
    | bytes b => exact ⟨_, _, read.eq_4 _ hjson⟩
  obtain ⟨single, s, hread⟩ := hread
  rw [Settles, hread, hjson]
  exact (readMarkup_outcome single s).imp_left fun ⟨root, hroot⟩ => ⟨_, hroot, rfl⟩

/-- Bytes without a text are refused as data. -/
theorem body_cases (body : Body) : (∃ s, body.Holds s) ∨ body.looksLikeJson = false
    ∨ body.looksLikeJson = true ∧ ∃ reason, read body = .error (refusal true reason) := by
  by_cases hjson : body.looksLikeJson = true
  · cases body with
    | text s => exact .inl ⟨_, .text hjson⟩
    | bytes b =>
      cases htext : Json.textOfBytes b with
      | ok s => exact .inl ⟨s, .bytes hjson htext⟩
      | error reason => exact .inr (.inr ⟨hjson, reason, by rw [read.eq_2 _ hjson, htext]; rfl⟩)
  · exact .inr (.inl (by simpa using hjson))

theorem read_meets {n : Nat} (h : body.MeetsNumber n) :
    read body = .error (.badValue (Text.digitLimitText n)) := by
  obtain ⟨s, hs, hlong⟩ := h
  rw [(read_holds hs).2, readJson_long hlong]

theorem settles_of_not_meets (h : ∀ n, ¬ body.MeetsNumber n) : Settles body := by
  rcases body_cases body with ⟨s, hs⟩ | hjson | ⟨hjson, hrefused⟩
  · exact settles_of_holds hs fun n hlong => h n ⟨s, hs, hlong⟩
  · exact settles_document hjson
  · exact .inr (hjson ▸ hrefused)

/-- What a body is read as is known from its front. -/
theorem isData_of_read {page : Page} (h : read body = .ok page) :
    page.isData = body.looksLikeJson := by
  by_cases hlong : ∃ n, body.MeetsNumber n
  · obtain ⟨n, hn⟩ := hlong
    rw [read_meets hn] at h
    cases h
  · rcases settles_of_not_meets fun n hn =>
      hlong ⟨n, hn⟩ with ⟨page', hread, hkind⟩ | ⟨reason, hread⟩
    · obtain rfl := Except.ok.inj (h.symm.trans hread)
      exact hkind
    · cases h.symm.trans hread

end

/-- A body is read as what it looks like or refused, or else a long number is met in it. -/
theorem read_outcome (body : Body) :
    (∃ n, body.MeetsNumber n ∧ read body = .error (.badValue (Text.digitLimitText n)))
      ∨ (∀ n, ¬ body.MeetsNumber n)
        ∧ ((∃ page, read body = .ok page ∧ page.isData = body.looksLikeJson)
          ∨ ∃ reason, read body = .error (refusal body.looksLikeJson reason)) := by
  by_cases h : ∃ n, body.MeetsNumber n
  · obtain ⟨n, hn⟩ := h
    exact .inl ⟨n, hn, read_meets hn⟩
  · have hnone : ∀ n, ¬ body.MeetsNumber n := fun n hn => h ⟨n, hn⟩
    exact .inr ⟨hnone, settles_of_not_meets hnone⟩

/-- A text that opens with a bracket holds itself. -/
theorem holds_bracket (s : List Char) :
    (Body.text (String.ofList ('[' :: s))).Holds ('[' :: s) := by
  have hlist : (String.ofList ('[' :: s)).toList = '[' :: s := String.toList_ofList
  have hholds :=
    Body.Holds.text (s := String.ofList ('[' :: s)) (by rw [Body.looksLikeJson, hlist]; rfl)
  rw [hlist] at hholds
  exact hholds

/-- A list of one number with 4301 digits is neither read nor refused. -/
theorem long_number_not_refused : ¬ ∀ body : Body,
    (∃ page, read body = .ok page ∧ page.isData = body.looksLikeJson)
      ∨ ∃ m url, read body = .error (.unreadable m url) := by
  intro h
  have hread : read (.text (String.ofList ('[' :: (List.replicate 4301 '1' ++ [']']))))
      = .error (.badValue (Text.digitLimitText 4301)) :=
    read_meets ⟨_, holds_bracket _, Json.meets_list (by decide)⟩
  rcases h (.text (String.ofList ('[' :: (List.replicate 4301 '1' ++ [']']))))
    with ⟨page, hpage, -⟩ | ⟨m, url, hrefused⟩
  · rw [hread] at hpage
    cases hpage
  · rw [hread] at hrefused
    cases hrefused

end Page

end Gleaner
