/-
  Gleaner/Proofs/Fault.lean
  =========================
  **Faults that no stage accounts for.**  How a result comes out of another, and which
  faults do not end a stage.  An address that cannot be taken apart and a
  header text with too long a number are bad values.  A bad value does not end a stage
  (`endsStage_badValue`), so where one of these comes up a run has no report.
-/
import Gleaner.Source.Basic
import Gleaner.Url.Template
import Mathlib.Data.List.Forall2

namespace Gleaner

/-! ### Results -/

section Results

variable {α β ε : Type} {g : α → β} {x : Except ε α}

theorem map_eq_ok {b : β} : x.map g = .ok b ↔ ∃ a, x = .ok a ∧ g a = b := by
  cases x <;> simp [Except.map]

theorem map_eq_error {e : ε} : x.map g = .error e ↔ x = .error e := by
  cases x <;> simp [Except.map]

theorem bind_eq_ok {g : α → Except ε β} {b : β} :
    x.bind g = .ok b ↔ ∃ a, x = .ok a ∧ g a = .ok b := by
  cases x <;> simp [Except.bind]

theorem exists_ok_of_any {p : α → Bool} (h : x.toOption.any p = true) :
    ∃ a, x = .ok a ∧ p a = true := by
  cases x with
  | error e => cases h
  | ok a => exact ⟨a, rfl, h⟩

theorem eq_error_of_decide [DecidableEq ε] {e : ε}
    (h : (match x with | .ok _ => false | .error e' => decide (e' = e)) = true) : x = .error e := by
  cases x with
  | ok a => cases h
  | error e' => rw [of_decide_eq_true h]

/-! ### One result for each of many -/

section Each

variable {f : α → Except ε β} {as : List α}

/-- A list of results is there exactly if every item has its result, in the same order. -/
theorem mapM_eq_ok {bs : List β} :
    as.mapM f = .ok bs ↔ List.Forall₂ (fun a b => f a = .ok b) as bs := by
  induction as generalizing bs with
  | nil =>
    rw [List.mapM_nil, List.forall₂_nil_left_iff]
    constructor
    · rintro ⟨⟩
      rfl
    · rintro rfl
      rfl
  | cons a as ih =>
    rw [List.mapM_cons, List.forall₂_cons_left_iff]
    constructor
    · intro h
      obtain ⟨b, hb, h⟩ := bind_eq_ok.mp h
      obtain ⟨bs', hbs, h⟩ := bind_eq_ok.mp h
      cases h
      exact ⟨b, bs', hb, ih.mp hbs, rfl⟩
    · rintro ⟨b, bs', hb, hbs, rfl⟩
      exact bind_eq_ok.mpr ⟨b, hb, bind_eq_ok.mpr ⟨bs', ih.mpr hbs, rfl⟩⟩

/-- There is a list of results exactly if no item fails. -/
theorem exists_mapM_ok : (∃ bs, as.mapM f = .ok bs) ↔ ∀ a ∈ as, ∃ b, f a = .ok b := by
  simp only [mapM_eq_ok]
  induction as with
  | nil => simp
  | cons a as ih =>
    rw [List.forall_mem_cons, ← ih]
    simp only [List.forall₂_cons_left_iff]
    constructor
    · rintro ⟨_, b, bs, hb, hbs, rfl⟩
      exact ⟨⟨b, hb⟩, bs, hbs⟩
    · rintro ⟨⟨b, hb⟩, bs, hbs⟩
      exact ⟨b :: bs, b, bs, hb, hbs, rfl⟩

/-- The fault is that of the first that has one. -/
theorem mapM_eq_error {e : ε} : as.mapM f = .error e ↔
    ∃ front a back, as = front ++ a :: back ∧ (∀ x ∈ front, ∃ b, f x = .ok b) ∧ f a = .error e := by
  induction as with
  | nil =>
    rw [List.mapM_nil]
    constructor
    · rintro ⟨⟩
    · rintro ⟨front, a, back, hsplit, -⟩
      simp at hsplit
  | cons a as ih =>
    rw [List.mapM_cons]
    cases ha : f a with
    | error e' =>
      change Except.error e' = Except.error e ↔ _
      constructor
      · rintro ⟨⟩
        exact ⟨[], a, as, rfl, by simp, ha⟩
      · rintro ⟨front, a', back, hsplit, hfront, ha'⟩
        cases front with
        | nil =>
          obtain ⟨rfl, rfl⟩ := List.cons.inj hsplit
          rw [ha] at ha'
          cases ha'
          rfl
        | cons x front =>
          obtain ⟨rfl, -⟩ := List.cons.inj hsplit
          obtain ⟨b, hb⟩ := hfront a (by simp)
          rw [ha] at hb
          cases hb
    | ok b =>
      have hrest : (Except.ok b >>= fun b => as.mapM f >>= fun bs => pure (b :: bs)) = .error e
          ↔ as.mapM f = .error e := map_eq_error
      rw [hrest, ih]
      constructor
      · rintro ⟨front, a', back, rfl, hfront, ha'⟩
        refine ⟨a :: front, a', back, rfl, fun x hx => ?_, ha'⟩
        rcases List.mem_cons.mp hx with rfl | hx
        · exact ⟨b, ha⟩
        · exact hfront x hx
      · rintro ⟨front, a', back, hsplit, hfront, ha'⟩
        cases front with
        | nil =>
          obtain ⟨rfl, rfl⟩ := List.cons.inj hsplit
          rw [ha] at ha'
          cases ha'
        | cons x front =>
          obtain ⟨rfl, rfl⟩ := List.cons.inj hsplit
          exact ⟨front, a', back, rfl, fun x hx => hfront x (List.mem_cons_of_mem _ hx), ha'⟩

end Each

/-! ### Where faults come from -/

/-- If there is no answer, it is for a fault of this kind. -/
def FailsBy (kind : Fault → Prop) (x : Except Fault α) : Prop := ∀ e, x = .error e → kind e

section Kinds

variable {kind kind' : Fault → Prop} {x : Except Fault α}

theorem FailsBy.ok (a : α) : FailsBy kind (.ok a) := fun _ h => nomatch h

theorem FailsBy.error {e : Fault} (h : kind e) : FailsBy kind (.error e : Except Fault α) := by
  rintro _ ⟨⟩
  exact h

theorem FailsBy.mono (h : FailsBy kind x) (hkind : ∀ e, kind e → kind' e) : FailsBy kind' x :=
  fun e he => hkind e (h e he)

theorem FailsBy.map {g : α → β} (h : FailsBy kind x) : FailsBy kind (x.map g) :=
  fun e he => h e (map_eq_error.mp he)

theorem FailsBy.bind {g : α → Except Fault β} (h : FailsBy kind x) (hg : ∀ a, FailsBy kind (g a)) :
    FailsBy kind (x.bind g) := by
  cases x with
  | ok a => exact hg a
  | error e => exact .error (h e rfl)

end Kinds

end Results

def Fault.IsBadValue (e : Fault) : Prop := ∃ m, e = .badValue m

theorem Fault.endsStage_badValue (m : String) : (Fault.badValue m).endsStage = false := rfl

/-! ### Addresses -/

namespace Url

/-- An address is refused for what it is, never for another reason. -/
theorem splitWith_fault {scheme url : List Char} {e : Fault} (h : splitWith scheme url = .error e) :
    ∃ m, e = .badValue m := by
  unfold splitWith at h
  dsimp only at h
  split at h
  · cases h
    exact ⟨_, rfl⟩
  · split at h
    · cases h
      exact ⟨_, rfl⟩
    · split at h
      · cases h
        exact ⟨_, rfl⟩
      · cases h

/-- Resolving fails only by an address that cannot be taken apart. -/
theorem join_fault {base url : List Char} {e : Fault} (h : join base url = .error e) :
    ∃ m, e = .badValue m := by
  unfold join at h
  split at h
  · cases h
  · split at h
    · cases h
    · cases hb : split base with
      | error f =>
        rw [hb] at h
        cases h
        exact splitWith_fault hb
      | ok b =>
        rw [hb] at h
        dsimp only at h
        cases hr : splitWith b.scheme url with
        | error f =>
          rw [hr] at h
          cases h
          exact splitWith_fault hr
        | ok r =>
          rw [hr] at h
          dsimp only at h
          split at h <;> cases h

theorem full_fault {base url : String} {e : Fault} (h : full base url = .error e) :
    ∃ m, e = .badValue m := by
  unfold full at h
  cases hf : fullChars base.toList url.toList with
  | ok cs => rw [hf] at h; cases h
  | error f =>
    rw [hf] at h
    cases h
    unfold fullChars at hf
    dsimp only at hf
    split at hf
    · cases hf
    · split at hf
      · cases hf
      · exact join_fault hf

theorem searchUrl_fault {base template keyword : String} {page : Int} {e : Fault}
    (h : searchUrl base template keyword page = .error e) : ∃ m, e = .badValue m :=
  full_fault h

end Url

/-! ### Headers -/

namespace Source

theorem parseJson_fault {text : String} {e : Fault} (h : parseJson text = .error e) :
    ∃ m, e = .badValue m ∨ e = .notJson m := by
  unfold parseJson at h
  split at h
  · cases h
  · split at h <;> cases h
    · exact ⟨_, .inl rfl⟩
    · exact ⟨_, .inr rfl⟩

theorem requestHeaders_fault {s : Source} {e : Fault} (h : s.requestHeaders = .error e) :
    ∃ m, e = .badValue m := by
  unfold requestHeaders at h
  split at h
  · cases h
  · split at h
    · cases h
    · split at h
      · cases h
      · cases h
      · cases h
      · next f hne hf =>
        cases h
        obtain ⟨m, rfl | rfl⟩ := parseJson_fault hf
        · exact ⟨m, rfl⟩
        · exact absurd rfl (hne m)

end Source

end Gleaner
