import ComponentInstall.Proofs.Json.Grammar

/-!
# Numbers follow their rules

A number that is skipped is checked for its form only, and its form is what the rules say. Every rule is
settled by the character that comes next, so each has an equivalence for every character that matters,
and the readers, which look at the same character, are compared with it.
-/

namespace ComponentInstall.Json

open Grammar Text

namespace Grammar

@[simp] theorem not_digits_nil {rest : List Char} : ¬ Digits [] rest := by
  rintro ⟨⟨c, none, -⟩, -⟩
  cases none

@[simp] theorem digits_cons_iff {c : Char} {input rest : List Char} :
    Digits (c :: input) rest ↔ isDigit c = true ∧ (c :: input).dropWhile isDigit = rest := by
  simp [Digits]

theorem exponent_of_letter {letter : Char} {input rest : List Char}
    (begins : letter = 'e' ∨ letter = 'E') :
    Exponent (letter :: input) rest ↔ Digits (unsigned input) rest := by
  constructor
  · intro exponent
    cases exponent with
    | absent none => rcases begins with rfl | rfl <;> simp at none
    | present _ digits => exact digits
  · exact .present begins

theorem exponent_of_none {input rest : List Char}
    (none : input.head? ≠ some 'e' ∧ input.head? ≠ some 'E') :
    Exponent input rest ↔ input = rest := by
  constructor
  · intro exponent
    cases exponent with
    | absent => rfl
    | present begins digits => rcases begins with rfl | rfl <;> simp at none
  · rintro rfl
    exact .absent none

theorem fraction_of_point {input rest : List Char} :
    Fraction ('.' :: input) rest ↔ ∃ middle, Digits input middle ∧ Exponent middle rest := by
  constructor
  · intro fraction
    cases fraction with
    | absent none => simp at none
    | present digits exponent => exact ⟨_, digits, exponent⟩
  · rintro ⟨middle, digits, exponent⟩
    exact .present digits exponent

theorem fraction_of_none {input rest : List Char} (none : input.head? ≠ some '.') :
    Fraction input rest ↔ Exponent input rest := by
  constructor
  · intro fraction
    cases fraction with
    | absent _ exponent => exact exponent
    | present => simp at none
  · exact .absent none

theorem numeral_of_zero {input rest : List Char} :
    Numeral ('0' :: input) rest ↔
      (∀ c, input.head? = some c → isDigit c = false) ∧ Fraction input rest := by
  constructor
  · intro numeral
    cases numeral with
    | zero alone later => exact ⟨alone, later⟩
    | other nonzero => exact absurd rfl nonzero
  · rintro ⟨alone, later⟩
    exact .zero alone later

theorem numeral_of_other {c : Char} {input rest : List Char} (nonzero : c ≠ '0') :
    Numeral (c :: input) rest ↔ isDigit c = true ∧ Fraction (input.dropWhile isDigit) rest := by
  constructor
  · intro numeral
    cases numeral with
    | zero => exact absurd rfl nonzero
    | other _ digit later => exact ⟨digit, later⟩
  · rintro ⟨digit, later⟩
    exact .other nonzero digit later

theorem not_numeral_nil {rest : List Char} : ¬ Numeral [] rest := by
  nofun

theorem length_lt_of_digits {input rest : List Char} (digits : Digits input rest) :
    rest.length < input.length := by
  cases input with
  | nil => exact absurd digits not_digits_nil
  | cons c input =>
    obtain ⟨digit, rfl⟩ := digits_cons_iff.mp digits
    rw [List.dropWhile_cons_of_pos digit]
    exact Nat.lt_succ_of_le (List.dropWhile_suffix _).length_le

theorem length_unsigned_le (input : List Char) : (unsigned input).length ≤ input.length := by
  unfold unsigned
  split <;> simp

theorem length_le_of_exponent {input rest : List Char} (exponent : Exponent input rest) :
    rest.length ≤ input.length := by
  cases exponent with
  | absent => exact Nat.le_refl _
  | @present letter input rest begins digits =>
    have fewer := length_lt_of_digits digits
    have behind := length_unsigned_le input
    simp only [List.length_cons]
    omega

theorem length_le_of_fraction {input rest : List Char} (fraction : Fraction input rest) :
    rest.length ≤ input.length := by
  cases fraction with
  | absent none exponent => exact length_le_of_exponent exponent
  | present digits exponent =>
    have fewer := length_lt_of_digits digits
    have behind := length_le_of_exponent exponent
    simp only [List.length_cons]
    omega

theorem length_lt_of_numeral {input rest : List Char} (numeral : Numeral input rest) :
    rest.length < input.length := by
  cases numeral with
  | zero alone later => exact Nat.lt_succ_of_le (length_le_of_fraction later)
  | @other c input rest nonzero digit later =>
    have fewer : (input.dropWhile isDigit).length ≤ input.length :=
      (List.dropWhile_suffix _).length_le
    exact Nat.lt_succ_of_le (Nat.le_trans (length_le_of_fraction later) fewer)

end Grammar

namespace Reader

theorem follows_dropDigits :
    dropDigits.Follows fun input _ rest => input.dropWhile isDigit = rest := by
  constructor
  intro cursor done rest
  simp [Reads, dropDigits, Cursor.skip]

theorem follows_exponentSign :
    exponentSign.Follows fun input rising rest =>
      rising = decide (input.head? ≠ some '-') ∧ unsigned input = rest := by
  apply Follows.of_peek
  · simp [unsigned, eq_comm]
  · intro c tail position rising rest
    by_cases plus : c = '+'
    · subst plus
      simp [reads_take, unsigned, eq_comm]
    by_cases minus : c = '-'
    · subst minus
      simp [reads_take, unsigned, eq_comm]
    simp [plus, minus, unsigned, eq_comm]

theorem reads_skipExponent {letter : Char} {input rest : List Char} {position : Position}
    {done : Unit} :
    skipExponent.Reads ⟨letter :: input, position⟩ done rest ↔ Digits (unsigned input) rest := by
  rw [skipExponent, reads_take, follows_exponentSign.reads_bind fun _ middle => Digits middle rest]
  · constructor
    · rintro ⟨_, _, ⟨-, rfl⟩, digits⟩
      exact digits
    · exact fun digits => ⟨_, _, ⟨rfl, rfl⟩, digits⟩
  · intro _ middle position _
    rw [reads_peek]
    cases middle with
    | nil => simp
    | cons c middle =>
      rw [digits_cons_iff]
      by_cases digit : isDigit c = true <;> simp [digit, follows_dropDigits.reads_iff]

theorem follows_skipAfterDigits :
    skipAfterDigits.Follows fun input _ rest => Exponent input rest := by
  apply Follows.of_peek
  · intro position done rest
    rw [exponent_of_none (by simp)]
    exact reads_pure.trans (by simp)
  · intro c tail position done rest
    by_cases small : c = 'e'
    · subst small
      exact reads_skipExponent.trans (exponent_of_letter (Or.inl rfl)).symm
    by_cases large : c = 'E'
    · subst large
      exact reads_skipExponent.trans (exponent_of_letter (Or.inr rfl)).symm
    rw [exponent_of_none (by simp [small, large])]
    simp [small, large]

theorem reads_skipFraction {input rest : List Char} {position : Position} {done : Unit} :
    skipFraction.Reads ⟨'.' :: input, position⟩ done rest ↔ Fraction ('.' :: input) rest := by
  rw [skipFraction, reads_take, reads_peek, fraction_of_point]
  cases input with
  | nil => simp
  | cons c input =>
    by_cases digit : isDigit c = true
    · simp [digit, (follows_dropDigits.bind fun _ => follows_skipAfterDigits).reads_iff]
    · simp [digit]

theorem follows_skipNumberBody : skipNumberBody.Follows fun input _ rest => Numeral input rest := by
  apply Follows.of_peek
  · simp [not_numeral_nil]
  · intro c tail position done rest
    by_cases zero : c = '0'
    · subst zero
      rw [numeral_of_zero]
      simp only [reads_take, reads_peek]
      cases tail with
      | nil =>
        rw [fraction_of_none (by simp), exponent_of_none (by simp)]
        simp
      | cons next tail =>
        by_cases digit : isDigit next = true
        · simp [digit]
        by_cases point : next = '.'
        · subst point
          simpa [digit] using reads_skipFraction
        · rw [fraction_of_none (by simpa using point)]
          simp [digit, point, follows_skipAfterDigits.reads_iff]
    · rw [numeral_of_other zero]
      by_cases digit : isDigit c = true
      · simp only [digit, if_true, true_and]
        rw [follows_dropDigits.reads_bind fun _ middle => Fraction middle rest]
        · simp [digit]
        · intro _ middle position _
          rw [reads_peek]
          by_cases point : middle.head? = some '.'
          · obtain ⟨tail, rfl⟩ := List.head?_eq_some_iff.mp point
            exact reads_skipFraction
          · rw [fraction_of_none point]
            split
            · rename_i same
              exact absurd same point
            · exact follows_skipAfterDigits.reads_iff _
      · simp [digit]

end Reader

end ComponentInstall.Json
