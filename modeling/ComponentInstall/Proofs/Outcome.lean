/-!
# Steps that may fail

A sequence of steps that may fail goes on from a step that succeeds and ends with one that does not.
The lemmas let `simp` run such a sequence as far as its steps are known, and say when a sequence whose
steps are not known succeeds.
-/

namespace ComponentInstall

variable {ε δ α β : Type}

@[simp] theorem ok_bind (value : α) (next : α → Except ε β) :
    (Except.ok value >>= next) = next value := rfl

@[simp] theorem error_bind (error : ε) (next : α → Except ε β) :
    (Except.error error >>= next) = .error error := rfl

@[simp] theorem pure_eq_ok (value : α) : (pure value : Except ε α) = .ok value := rfl

@[simp] theorem throw_eq_error (error : ε) : (throw error : Except ε α) = .error error := rfl

@[simp] theorem mapError_ok (change : ε → δ) (value : α) :
    (Except.ok value : Except ε α).mapError change = .ok value := rfl

@[simp] theorem mapError_error (change : ε → δ) (error : ε) :
    (Except.error error : Except ε α).mapError change = .error (change error) := rfl

/-- A sequence of steps succeeds if they do, one after the other. -/
theorem bind_eq_ok_iff {step : Except ε α} {next : α → Except ε β} {value : β} :
    (step >>= next) = .ok value ↔ ∃ between, step = .ok between ∧ next between = .ok value := by
  cases step <;> simp

theorem map_eq_ok_iff {step : Except ε α} {change : α → β} {value : β} :
    step.map change = .ok value ↔ ∃ before, step = .ok before ∧ change before = value := by
  cases step <;> simp [Except.map]

theorem mapError_eq_ok_iff {step : Except ε α} {change : ε → δ} {value : α} :
    step.mapError change = .ok value ↔ step = .ok value := by
  cases step <;> simp

end ComponentInstall
