import ComponentInstall.Json.Decoder
import ComponentInstall.Proofs.Outcome

/-!
# Readers that succeed

A reader that is put together from others succeeds exactly if they do, one after the other. The lemmas
here take such a reader apart: each says what success means for one way of putting readers together, or
for one of the smallest readers. Positions do not decide about success, so they appear nowhere but inside
the cursors.
-/

namespace ComponentInstall.Json.Reader

variable {α β : Type} {cursor last : Cursor}

@[simp] theorem bind_eq_ok_iff {first : Reader α} {second : α → Reader β} {b : β} :
    (first >>= second) cursor = (.ok b, last) ↔
      ∃ a middle, first cursor = (.ok a, middle) ∧ second a middle = (.ok b, last) := by
  rw [bind_apply]
  obtain ⟨outcome, middle⟩ := first cursor
  cases outcome with
  | error fault => simp
  | ok a =>
    constructor
    · exact fun read => ⟨a, middle, rfl, read⟩
    · rintro ⟨_, _, same, read⟩
      cases same
      exact read

@[simp] theorem pure_eq_ok_iff {a b : α} :
    (pure a : Reader α) cursor = (.ok b, last) ↔ a = b ∧ cursor = last := by
  simp [pure_apply]

@[simp] theorem fail_ne_ok {cause : Cause} {a : α} : fail cause cursor ≠ (.ok a, last) := by
  simp [fail]

@[simp] theorem failNext_ne_ok {cause : Cause} {a : α} : failNext cause cursor ≠ (.ok a, last) := by
  simp [failNext]

@[simp] theorem failHere_ne_ok {cause : Cause} {a : α} : failHere cause cursor ≠ (.ok a, last) := by
  simp [failHere]

@[simp] theorem placed_eq_ok_iff {reader : Reader α} {a : α} :
    placed reader cursor = (.ok a, last) ↔ reader cursor = (.ok a, last) := by
  rw [placed]
  split
  · rename_i failed
    simp [failed]
  · rfl

/-- A body and its end are read one after the other. -/
@[simp] theorem closedBy_eq_ok_iff {body : Reader α} {close : Reader Unit} {a : α} :
    closedBy body close cursor = (.ok a, last) ↔
      ∃ middle, body cursor = (.ok a, middle) ∧ close middle = (.ok (), last) := by
  rw [closedBy]
  cases read : body cursor with
  | mk outcome middle =>
    cases ended : close middle with
    | mk closing outside =>
      cases outcome with
      | error fault => simp [ended]
      | ok b =>
        constructor
        · intro same
          cases closing with
          | error fault => simp [ended] at same
          | ok done =>
            obtain ⟨rfl, rfl⟩ : b = a ∧ outside = last := by simpa [ended] using same
            exact ⟨middle, rfl, ended⟩
        · rintro ⟨_, same, closed⟩
          cases same
          rw [ended] at closed
          cases closed
          simp [ended]

/-- A document is read if its data is, and only gaps are left behind. -/
theorem document_eq_ok_iff {reader : Reader α} {text : String} {a : α} :
    document reader text = .ok a ↔
      ∃ middle, reader (.start text) = (.ok a, middle) ∧ middle.rest.dropWhile isGap = [] := by
  simp only [document, bind_apply, peekPastGaps]
  obtain ⟨outcome, middle⟩ := reader (.start text)
  cases outcome with
  | error fault => simp
  | ok b =>
    cases left : middle.rest.dropWhile isGap with
    | nil =>
      simp only [left, List.head?_nil, pure_apply, Except.ok.injEq, Prod.mk.injEq]
      constructor
      · rintro rfl
        exact ⟨middle, ⟨rfl, rfl⟩, left⟩
      · rintro ⟨_, ⟨same, -⟩, -⟩
        exact same
    | cons c more =>
      simp only [left, List.head?_cons, failNext, reduceCtorEq, false_iff]
      rintro ⟨_, same, ended⟩
      cases same
      cases left.symm.trans ended

/-- What holds of a result whenever the reader succeeds. -/
structure Yields (reader : Reader α) (P : α → Prop) : Prop where
  of_read : ∀ {cursor a last}, reader cursor = (.ok a, last) → P a

namespace Yields

variable {P : α → Prop} {Q : β → Prop}

theorem pure {a : α} (holds : P a) : Yields (Pure.pure a) P := by
  constructor
  intro cursor b last read
  rw [(pure_eq_ok_iff.mp read).1.symm]
  exact holds

theorem bind {first : Reader α} {second : α → Reader β} (yields : first.Yields P)
    (goes : ∀ a, P a → (second a).Yields Q) : (first >>= second).Yields Q := by
  constructor
  intro cursor b last read
  obtain ⟨a, middle, readFirst, readSecond⟩ := bind_eq_ok_iff.mp read
  exact (goes a (yields.of_read readFirst)).of_read readSecond

/-- The result of the last part is the result of the whole. -/
theorem of_last {first : Reader α} {second : α → Reader β} (goes : ∀ a, (second a).Yields Q) :
    (first >>= second).Yields Q :=
  bind (P := fun _ => True) ⟨fun _ => trivial⟩ fun a _ => goes a

theorem of_never {reader : Reader α} (never : ∀ cursor a last, reader cursor ≠ (.ok a, last)) :
    reader.Yields P := ⟨fun read => absurd read (never _ _ _)⟩

theorem fail {cause : Cause} : (Reader.fail cause : Reader α).Yields P :=
  of_never fun _ _ _ => fail_ne_ok

theorem failNext {cause : Cause} : (Reader.failNext cause : Reader α).Yields P :=
  of_never fun _ _ _ => failNext_ne_ok

theorem placed {reader : Reader α} (yields : reader.Yields P) : (Reader.placed reader).Yields P :=
  ⟨fun read => yields.of_read (placed_eq_ok_iff.mp read)⟩

theorem closedBy {body : Reader α} {close : Reader Unit} (yields : body.Yields P) :
    (Reader.closedBy body close).Yields P := by
  constructor
  intro cursor a last read
  obtain ⟨middle, readBody, -⟩ := closedBy_eq_ok_iff.mp read
  exact yields.of_read readBody

/-- A reader that is about to report what it found instead of what was asked for never succeeds. -/
theorem mismatch {expected : String} : (Reader.mismatch expected : Reader α).Yields P := by
  apply placed
  apply of_last
  intro next
  split
  case h_1 | h_2 | h_3 | h_4 | h_5 =>
    apply of_last
    intro _
    apply of_last
    intro _
    exact fail
  case h_6 | h_7 => exact fail
  case h_8 =>
    split
    · apply of_last
      intro _
      exact fail
    · exact failNext
  case h_9 => exact failNext

end Yields

end ComponentInstall.Json.Reader
