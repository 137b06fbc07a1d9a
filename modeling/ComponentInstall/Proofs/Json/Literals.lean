import ComponentInstall.Proofs.Json.Independence
import ComponentInstall.Proofs.Version.Grammar

/-!
# Truth values and whole numbers

A truth value is one of two words. A whole number is a numeral of digits alone, with neither sign nor
fraction nor exponent, whose value fits a machine word. Its reader reads any number: one with a sign is
negative or a double, one with a fraction or an exponent is a double, and so is one that is too large, so
only a numeral of digits alone comes out as a natural number.
-/

namespace ComponentInstall.Json

open Grammar Text

/-- The characters of a truth value. -/
def truthWord (b : Bool) : List Char := if b then ['t', 'r', 'u', 'e'] else ['f', 'a', 'l', 's', 'e']

/-- A truth value, which may have gaps before it. -/
def Truth : Rule Bool := fun input b rest => pastGaps input = truthWord b ++ rest

theorem Decoder.follows_boolean : Decoder.boolean.reader.Follows Truth := by
  apply Decoder.follows_of_present fun input (b : Bool) rest => input = truthWord b ++ rest
  · rintro (_ | _) rest <;> simp [truthWord]
  · intro c tail position b rest
    by_cases yes : c = 't'
    · subst yes
      have word := (Reader.follows_literal ['r', 'u', 'e']).map fun _ => true
      cases b <;> simp [Reader.reads_take, word.reads_iff, truthWord]
    by_cases no : c = 'f'
    · subst no
      have word := (Reader.follows_literal ['a', 'l', 's', 'e']).map fun _ => false
      cases b <;> simp [Reader.reads_take, word.reads_iff, truthWord]
    · cases b <;> simp [yes, no, truthWord]

theorem Rule.Independent.truth : Rule.Independent Truth where
  skippable := by
    rintro input (_ | _) rest said
    · exact .scalar said (.word (by decide))
    · exact .scalar said (.word (by decide))
  gapless := by simp only [Truth, pastGaps_pastGaps, implies_true]
  moves := by
    rintro input (_ | _) rest said
    · exact moves_word said
    · exact moves_word said

/-- A whole number without sign, fraction and exponent: a numeral of digits alone. -/
def Digital : Rule Nat := fun input n rest =>
  ∃ digits, input = digits ++ rest ∧ Grammar.Numeral (digits ++ rest) rest ∧ Text.Numeral digits n

/-- A whole number, which may have gaps before it. -/
def Whole : Rule Nat := fun input n rest => Digital (pastGaps input) n rest

theorem Rule.Independent.whole : Rule.Independent Whole where
  skippable := by
    rintro input n rest ⟨digits, begins, numeral, whole⟩
    obtain ⟨c, tail, rfl⟩ := List.exists_cons_of_ne_nil whole.nonempty
    have digit := (isDigit_iff c).mpr (whole.digit c List.mem_cons_self)
    exact .scalar begins (.number digit numeral)
  gapless := by simp only [Whole, pastGaps_pastGaps, implies_true]
  moves := by
    rintro input n rest ⟨digits, begins, numeral, whole⟩
    obtain ⟨c, tail, rfl⟩ := List.exists_cons_of_ne_nil whole.nonempty
    obtain ⟨written, same, moved⟩ := moves_numeral numeral
    obtain rfl := List.append_cancel_right same
    obtain ⟨front, split, put⟩ := moves_word begins
    refine ⟨front, split, fun other stops => ?_⟩
    exact ⟨c :: tail, put other trivial, moved other stops, whole⟩

namespace Reader

/-- A number that is a double. -/
def IsReal (number : Number) : Prop := ∃ x, number = .real x

section

variable {negative : Bool} {significand : Nat}

theorem finishReal_yields {exponent : Int} :
    (finishReal negative significand exponent).Yields IsReal := by
  constructor
  intro cursor number last read
  rw [finishReal] at read
  split at read
  · cases read
    exact ⟨_, rfl⟩
  · cases read

theorem finishExponent_yields {place : Int} {rising : Bool} :
    (finishExponent negative significand place rising).Yields IsReal := by
  constructor
  intro cursor number last read
  rw [finishExponent] at read
  dsimp only at read
  split at read
  · exact finishReal_yields.of_read read
  · split at read
    · cases read
    · cases read
      exact ⟨_, rfl⟩

theorem exponentPart_yields {place : Int} :
    (exponentPart negative significand place).Yields IsReal := by
  apply Yields.of_last
  intro _
  apply Yields.of_last
  intro rising
  apply Yields.of_last
  intro next
  split
  · exact Yields.of_never fun _ _ _ => failHere_ne_ok
  · split
    · exact finishExponent_yields
    · exact Yields.failNext

theorem afterFraction_yields {place : Int} :
    (afterFraction negative significand place).Yields IsReal := by
  apply Yields.of_last
  intro next
  split
  · exact exponentPart_yields
  · exact exponentPart_yields
  · exact finishReal_yields

theorem fractionPart_yields {place : Int} :
    (fractionPart negative significand place).Yields IsReal := by
  apply Yields.of_last
  intro _
  constructor
  intro cursor number last read
  rw [fractionDigits] at read
  dsimp only at read
  split at read
  · exact afterFraction_yields.of_read read
  · split at read
    · split at read
      · cases read
      · cases read
    · exact afterFraction_yields.of_read read

end

/-- Neither a fraction nor an exponent comes next. -/
def Unbroken (rest : List Char) : Prop :=
  rest.head? ≠ some '.' ∧ rest.head? ≠ some 'e' ∧ rest.head? ≠ some 'E'

theorem fraction_self_iff {rest : List Char} : Fraction rest rest ↔ Unbroken rest := by
  constructor
  · intro fraction
    cases fraction with
    | absent noPoint exponent =>
      cases exponent with
      | absent noLetter => exact ⟨noPoint, noLetter⟩
      | @present letter input _ _ digits =>
        have fewer := length_lt_of_digits digits
        have behind := length_unsigned_le input
        rw [List.length_cons] at fewer
        omega
    | present digits exponent =>
      have fewer := length_lt_of_digits digits
      have behind := length_le_of_exponent exponent
      rw [List.length_cons] at behind
      omega
  · rintro ⟨noPoint, noLetter⟩
    exact .absent noPoint (.absent noLetter)

/-- What follows the whole part of a number makes it a double. -/
theorem reads_afterWhole_natural {negative : Bool} {significand dropped n : Nat} {cursor : Cursor}
    {rest : List Char} :
    (afterWhole negative significand dropped).Reads cursor (.natural n) rest ↔
      negative = false ∧ Unbroken cursor.rest ∧ dropped = 0 ∧ significand = n ∧ cursor.rest = rest := by
  have never {reader : Reader Number} (yields : reader.Yields IsReal) {cursor : Cursor} :
      ¬ reader.Reads cursor (.natural n) rest := by
    rintro ⟨position, read⟩
    obtain ⟨x, same⟩ := yields.of_read read
    cases same
  rw [afterWhole, reads_peek]
  split
  · rename_i point
    simp [Unbroken, point, never fractionPart_yields]
  · rename_i letter
    simp [Unbroken, letter, never exponentPart_yields]
  · rename_i letter
    simp [Unbroken, letter, never exponentPart_yields]
  · rename_i noPoint noSmall noLarge
    have unbroken : Unbroken cursor.rest := ⟨noPoint, noSmall, noLarge⟩
    by_cases complete : dropped = 0
    · cases negative with
      | false => simp [complete, wholeNumber, unbroken]
      | true =>
        by_cases outside : significand = 0 ∨ Nat.pow 2 63 < significand
        · simp [complete, wholeNumber, outside, never finishReal_yields]
        · simp [complete, wholeNumber, outside]
    · simp [complete, never finishReal_yields]

/-- The value of digits that follow others. -/
def valueFrom (sum : Nat) (digits : List Char) : Nat :=
  digits.foldl (fun sum c => 10 * sum + digitValue c) sum

theorem le_valueFrom (sum : Nat) (digits : List Char) : sum ≤ valueFrom sum digits := by
  induction digits generalizing sum with
  | nil => exact Nat.le_refl _
  | cons c digits inductionHypothesis =>
    have later := inductionHypothesis (10 * sum + digitValue c)
    rw [valueFrom, List.foldl_cons]
    exact Nat.le_trans (by omega) later

/-- Digits are taken in as long as the value fits. -/
theorem absorb_of_fits {sum : Nat} {digits rest : List Char} (digit : ∀ c ∈ digits, isDigit c = true)
    (noDigit : NoDigit rest) (fits : valueFrom sum digits < wordBound) :
    absorb sum (digits ++ rest) = (valueFrom sum digits, digits.length, rest) := by
  induction digits generalizing sum with
  | nil =>
    cases rest with
    | nil => rfl
    | cons c tail => simp [absorb, noDigit c rfl, valueFrom]
  | cons c digits inductionHypothesis =>
    obtain ⟨here, later⟩ := List.forall_mem_cons.mp digit
    have below := le_valueFrom (10 * sum + digitValue c) digits
    have fitsHere : sum * 10 + digitValue c < wordBound := by
      rw [Nat.mul_comm]
      exact Nat.lt_of_le_of_lt below fits
    have step : absorb (sum * 10 + digitValue c) (digits ++ rest) =
        (valueFrom (sum * 10 + digitValue c) digits, digits.length, rest) :=
      inductionHypothesis later (by rwa [Nat.mul_comm])
    rw [List.cons_append, absorb, if_pos ⟨here, fitsHere⟩, step, List.length_cons]
    simp [valueFrom, Nat.mul_comm]

/-- What is taken in are digits, and their value fits. -/
theorem digits_of_absorb {sum total count : Nat} {input rest : List Char} (small : sum < wordBound)
    (taken : absorb sum input = (total, count, rest)) :
    ∃ digits, input = digits ++ rest ∧ (∀ c ∈ digits, isDigit c = true) ∧
      valueFrom sum digits = total ∧ total < wordBound := by
  induction input generalizing sum total count with
  | nil =>
    cases taken
    exact ⟨[], rfl, nofun, rfl, small⟩
  | cons c input inductionHypothesis =>
    rw [absorb] at taken
    split at taken
    · rename_i fits
      cases later : absorb (sum * 10 + digitValue c) input with
      | mk value behind =>
        obtain ⟨more, left⟩ := behind
        rw [later] at taken
        cases taken
        obtain ⟨digits, rfl, digit, same, bounded⟩ := inductionHypothesis fits.2 later
        refine ⟨c :: digits, rfl, List.forall_mem_cons.mpr ⟨fits.1, digit⟩, ?_, bounded⟩
        rw [← same, Nat.mul_comm]
        rfl
    · cases taken
      exact ⟨[], rfl, nofun, rfl, small⟩

theorem noDigit_of_run {rest : List Char} (run : rest.dropWhile isDigit = rest) : NoDigit rest := by
  intro c first
  have stopped := List.head?_dropWhile_not isDigit rest
  rw [run, first] at stopped
  simpa using stopped

/-- A numeral of digits alone has no needless zero, and nothing behind it goes on with it. -/
theorem numeral_of_digits_iff {c : Char} {digits rest : List Char}
    (digit : ∀ d ∈ c :: digits, isDigit d = true) :
    Grammar.Numeral (c :: digits ++ rest) rest ↔
      (c = '0' → digits = []) ∧ NoDigit rest ∧ Unbroken rest := by
  obtain ⟨here, later⟩ := List.forall_mem_cons.mp digit
  by_cases zero : c = '0'
  · subst zero
    rw [List.cons_append, numeral_of_zero]
    constructor
    · rintro ⟨alone, fraction⟩
      cases digits with
      | nil => exact ⟨fun _ => rfl, alone, fraction_self_iff.mp fraction⟩
      | cons d digits => cases (alone d rfl).symm.trans (later d List.mem_cons_self)
    · rintro ⟨single, noDigit, unbroken⟩
      rw [single rfl]
      exact ⟨noDigit, fraction_self_iff.mpr unbroken⟩
  · rw [List.cons_append, numeral_of_other zero, List.dropWhile_append_of_pos later]
    constructor
    · rintro ⟨-, fraction⟩
      have run : rest.dropWhile isDigit = rest :=
        (List.dropWhile_suffix _).eq_of_length_le (length_le_of_fraction fraction)
      rw [run] at fraction
      exact ⟨fun same => absurd same zero, noDigit_of_run run, fraction_self_iff.mp fraction⟩
    · rintro ⟨-, noDigit, unbroken⟩
      rw [dropWhile_of_noDigit noDigit]
      exact ⟨here, fraction_self_iff.mpr unbroken⟩

theorem numeral_iff {digits : List Char} {n : Nat} :
    Text.Numeral digits n ↔
      digits ≠ [] ∧ (∀ c ∈ digits, isDigit c = true) ∧ valueFrom 0 digits = n ∧ n < wordBound := by
  rw [← word_eq_some_iff, word?]
  constructor
  · intro read
    split at read
    · rename_i given
      obtain ⟨nonempty, digit, fits⟩ := given
      cases read
      exact ⟨nonempty, List.all_eq_true.mp digit, rfl, fits⟩
    · cases read
  · rintro ⟨nonempty, digit, rfl, fits⟩
    exact if_pos ⟨nonempty, List.all_eq_true.mpr digit, fits⟩

theorem length_takeWhile_eq_zero_iff {rest : List Char} :
    (rest.takeWhile isDigit).length = 0 ↔ NoDigit rest := by
  cases rest with
  | nil => simp [NoDigit]
  | cons c tail => cases digit : isDigit c <;> simp [NoDigit, digit]

theorem not_digital_nil {n : Nat} {rest : List Char} : ¬ Digital [] n rest := by
  rintro ⟨digits, begins, -, whole⟩
  exact whole.nonempty (List.append_eq_nil_iff.mp begins.symm).1

theorem not_digital_of_noDigit {c : Char} {tail rest : List Char} {n : Nat}
    (noDigit : isDigit c = false) : ¬ Digital (c :: tail) n rest := by
  rintro ⟨digits, begins, -, whole⟩
  obtain ⟨d, digits, rfl⟩ := List.exists_cons_of_ne_nil whole.nonempty
  obtain ⟨rfl, -⟩ := List.cons.inj begins
  cases noDigit.symm.trans ((isDigit_iff c).mpr (whole.digit c List.mem_cons_self))

/-- A zero is a numeral by itself, if the number ends there. -/
theorem digital_iff_of_zero {tail rest : List Char} {n : Nat} :
    (NoDigit tail ∧ Unbroken tail ∧ 0 = n ∧ tail = rest) ↔
      Digital ('0' :: tail) n rest := by
  constructor
  · rintro ⟨noDigit, unbroken, rfl, rfl⟩
    have digit : ∀ d ∈ ['0'], isDigit d = true := List.forall_mem_singleton.mpr (by decide)
    exact ⟨['0'], rfl, (numeral_of_digits_iff digit).mpr ⟨fun _ => rfl, noDigit, unbroken⟩,
      numeral_iff.mpr ⟨by decide, digit, rfl, by decide⟩⟩
  · rintro ⟨digits, begins, numeral, whole⟩
    obtain ⟨nonempty, digit, same, -⟩ := numeral_iff.mp whole
    obtain ⟨d, digits, rfl⟩ := List.exists_cons_of_ne_nil nonempty
    obtain ⟨rfl, rfl⟩ := List.cons.inj begins
    obtain ⟨single, noDigit, unbroken⟩ := (numeral_of_digits_iff digit).mp numeral
    obtain rfl := single rfl
    exact ⟨noDigit, unbroken, same, rfl⟩

/-- What is taken in of a number that does not begin with a zero is a numeral, if the number ends
there. -/
theorem digital_iff_of_absorb {c : Char} {tail left rest : List Char} {total count n : Nat}
    (digit : isDigit c = true) (nonzero : c ≠ '0')
    (taken : absorb 0 (c :: tail) = (total, count, left)) :
    (NoDigit left ∧ Unbroken left ∧ total = n ∧ left = rest) ↔
      Digital (c :: tail) n rest := by
  constructor
  · rintro ⟨noDigit, unbroken, rfl, rfl⟩
    obtain ⟨digits, begins, allDigits, same, fits⟩ := digits_of_absorb (by decide) taken
    cases digits with
    | nil =>
      obtain rfl : c :: tail = left := begins
      cases (noDigit c rfl).symm.trans digit
    | cons d digits =>
      obtain ⟨rfl, rfl⟩ := List.cons.inj begins
      refine ⟨c :: digits, rfl, ?_, ?_⟩
      · exact (numeral_of_digits_iff allDigits).mpr
          ⟨fun zero => absurd zero nonzero, noDigit, unbroken⟩
      · exact numeral_iff.mpr ⟨List.cons_ne_nil _ _, allDigits, same, fits⟩
  · rintro ⟨digits, begins, numeral, whole⟩
    obtain ⟨nonempty, allDigits, same, fits⟩ := numeral_iff.mp whole
    obtain ⟨d, digits, rfl⟩ := List.exists_cons_of_ne_nil nonempty
    obtain ⟨-, noDigit, unbroken⟩ := (numeral_of_digits_iff allDigits).mp numeral
    have absorbed := absorb_of_fits allDigits noDigit (same.symm ▸ fits)
    rw [← begins, taken] at absorbed
    cases absorbed
    exact ⟨noDigit, unbroken, same, rfl⟩

section

variable {negative : Bool} {n : Nat} {c : Char} {tail rest : List Char} {position : Position}

theorem reads_numberBody_of_zero :
    (numberBody negative).Reads ⟨'0' :: tail, position⟩ (.natural n) rest ↔
      negative = false ∧ NoDigit tail ∧ Unbroken tail ∧ 0 = n ∧ tail = rest := by
  let reached := (Cursor.mk ('0' :: tail) position).skip 1 tail
  have body : numberBody negative ⟨'0' :: tail, position⟩ =
      if (tail.head?.map isDigit).getD false then failNext .numberInvalid reached
      else afterWhole negative 0 0 reached := rfl
  rw [Reads, body]
  by_cases noDigit : NoDigit tail
  · have goesOn : (tail.head?.map isDigit).getD false = false := by
      cases tail with
      | nil => rfl
      | cons d tail => exact noDigit d rfl
    rw [if_neg (by simp [goesOn])]
    have read : (afterWhole negative 0 0).Reads reached (.natural n) rest ↔ _ :=
      reads_afterWhole_natural
    exact read.trans (by simp [noDigit, reached, Cursor.skip])
  · have goesOn : (tail.head?.map isDigit).getD false = true := by
      cases tail with
      | nil => exact absurd noDigit_nil noDigit
      | cons d tail => simpa [NoDigit] using noDigit
    rw [if_pos goesOn]
    simp [noDigit]

theorem reads_numberBody_of_absorb {left : List Char} {total count : Nat} (digit : isDigit c = true)
    (nonzero : c ≠ '0') (taken : absorb 0 (c :: tail) = (total, count, left)) :
    (numberBody negative).Reads ⟨c :: tail, position⟩ (.natural n) rest ↔
      negative = false ∧ NoDigit left ∧ Unbroken left ∧ total = n ∧ left = rest := by
  let reached := (Cursor.mk (c :: tail) position).skip count left
  let dropped := left.takeWhile isDigit
  have body : numberBody negative ⟨c :: tail, position⟩ =
      afterWhole negative total dropped.length
        (reached.skip dropped.length (left.dropWhile isDigit)) := by
    rw [numberBody]
    split
    · rename_i nothing
      cases nothing
    · rename_i zero
      cases zero
      exact absurd rfl nonzero
    · rename_i same
      cases same
      rw [if_pos digit]
      simp only [taken]
      rfl
  have read : (afterWhole negative total dropped.length).Reads
      (reached.skip dropped.length (left.dropWhile isDigit)) (.natural n) rest ↔ _ :=
    reads_afterWhole_natural
  rw [Reads, body]
  refine read.trans (and_congr_right' ?_)
  rw [length_takeWhile_eq_zero_iff]
  constructor
  · rintro ⟨unbroken, noDigit, same, left⟩
    have run := dropWhile_of_noDigit noDigit
    simp only [Cursor.skip, run] at unbroken left
    exact ⟨noDigit, unbroken, same, left⟩
  · rintro ⟨noDigit, unbroken, same, rfl⟩
    have run := dropWhile_of_noDigit noDigit
    simp only [Cursor.skip, run]
    exact ⟨unbroken, noDigit, same, trivial⟩

theorem not_reads_numberBody (noDigit : isDigit c = false) :
    ¬ (numberBody negative).Reads ⟨c :: tail, position⟩ (.natural n) rest := by
  rintro ⟨reached, read⟩
  rw [numberBody] at read
  split at read
  · cases read
  · rename_i zero
    cases zero
    cases noDigit
  · rename_i same
    cases same
    rw [if_neg (by simp [noDigit])] at read
    cases read

end

/-- A natural number is read of a numeral of digits alone. -/
theorem reads_numberBody_natural {negative : Bool} {n : Nat} {cursor : Cursor} {rest : List Char} :
    (numberBody negative).Reads cursor (.natural n) rest ↔
      negative = false ∧ Digital cursor.rest n rest := by
  obtain ⟨input, position⟩ := cursor
  cases input with
  | nil =>
    constructor
    · rintro ⟨reached, read⟩
      cases read
    · exact fun given => absurd given.2 not_digital_nil
  | cons c tail =>
    by_cases zero : c = '0'
    · subst zero
      rw [reads_numberBody_of_zero]
      exact and_congr_right' digital_iff_of_zero
    by_cases digit : isDigit c = true
    · cases taken : absorb 0 (c :: tail) with
      | mk total behind =>
        obtain ⟨count, left⟩ := behind
        rw [reads_numberBody_of_absorb digit zero taken]
        exact and_congr_right' (digital_iff_of_absorb digit zero taken)
    · rw [Bool.not_eq_true] at digit
      exact iff_of_false (not_reads_numberBody digit) fun given => not_digital_of_noDigit digit given.2

end Reader

/-- Of all numbers only natural ones are machine words. -/
theorem Reader.reads_accepted {reader : Reader Number} {n : Nat} {cursor : Cursor} {rest : List Char} :
    (reader >>= fun number =>
        match Decoder.wordOf number with
        | .ok n => (pure n : Reader Nat)
        | .error cause => Reader.fail cause).Reads cursor n rest ↔
      reader.Reads cursor (.natural n) rest := by
  constructor
  · rintro ⟨position, read⟩
    obtain ⟨number, middle, readNumber, accepted⟩ := bind_eq_ok_iff.mp read
    cases number with
    | natural m =>
      obtain ⟨rfl, rfl⟩ := pure_eq_ok_iff.mp accepted
      exact ⟨position, readNumber⟩
    | negative m => exact absurd accepted fail_ne_ok
    | real x => exact absurd accepted fail_ne_ok
  · rintro ⟨position, read⟩
    exact ⟨position, bind_eq_ok_iff.mpr ⟨_, _, read, pure_eq_ok_iff.mpr ⟨rfl, rfl⟩⟩⟩

/-- Whole numbers are read of numerals of digits alone. -/
theorem Decoder.follows_word : Decoder.word.reader.Follows Whole := by
  apply Reader.Follows.placed
  apply Decoder.follows_of_present Digital
  · exact fun _ _ => Reader.not_digital_nil
  · intro c tail position n rest
    by_cases minus : c = '-'
    · subst minus
      simp only [Reader.reads_take]
      refine Reader.reads_accepted.trans (Reader.reads_numberBody_natural.trans ?_)
      exact iff_of_false (by simp) (Reader.not_digital_of_noDigit (by decide))
    by_cases digit : isDigit c = true
    · simp only [digit, if_true]
      refine Reader.reads_accepted.trans (Reader.reads_numberBody_natural.trans ?_)
      simp
    · rw [Bool.not_eq_true] at digit
      simp [digit, Reader.not_digital_of_noDigit digit]

end ComponentInstall.Json
