import ComponentInstall.Proofs.Json.Numerals
import ComponentInstall.Proofs.Json.Texts
import Mathlib.Data.List.DropRight

/-!
# What is skipped is a value

The reader that skips a value remembers what encloses it in a list of frames, and goes round in three
loops: at a value, behind an opening sign and behind a value. Each of the loops reads what the rule of
its place allows, and then all that closes the frames. The three statements are proved together by
induction on the fuel, which bounds the characters that are left: every two steps take at least one.
-/

namespace ComponentInstall.Json

open Grammar Text

theorem pastGaps_pastGaps (input : List Char) : pastGaps (pastGaps input) = pastGaps input :=
  List.dropWhile_idempotent ..

namespace Grammar

theorem length_le_of_scalar {c : Char} {input rest : List Char} (scalar : Scalar c input rest) :
    rest.length ≤ input.length := by
  cases scalar with
  | word known =>
    rw [List.length_append]
    omega
  | text characters => exact Nat.le_of_lt (length_lt_of_skippedCharacters characters)
  | negative numeral => exact Nat.le_of_lt (length_lt_of_numeral numeral)
  | number digit numeral => exact Nat.le_of_lt_succ (length_lt_of_numeral numeral)

theorem length_lt_of_skippedKey {input rest : List Char} (key : SkippedKey input rest) :
    rest.length < input.length := by
  obtain ⟨text, middle, quote, characters, colon⟩ := key
  have fewer := length_lt_of_pastGaps quote
  have fewerText := length_lt_of_skippedCharacters characters
  have fewerBehind := length_lt_of_pastGaps colon
  omega

theorem length_le_of_lead {frame : Frame} {input rest : List Char} (lead : Lead frame input rest) :
    rest.length ≤ input.length := by
  cases frame with
  | list =>
    obtain rfl : input = rest := lead
    exact Nat.le_refl _
  | object => exact Nat.le_of_lt (length_lt_of_skippedKey lead)

mutual

theorem length_lt_of_skipped : ∀ {input rest : List Char}, Skipped input rest →
    rest.length < input.length
  | _, _, .scalar first scalar => by
    have fewer := length_lt_of_pastGaps first
    have shorter := length_le_of_scalar scalar
    omega
  | _, _, .frame first inside => by
    have fewer := length_lt_of_pastGaps first
    have shorter := length_lt_of_inside inside
    omega

theorem length_lt_of_inside : ∀ {frame : Frame} {input rest : List Char}, Inside frame input rest →
    rest.length < input.length
  | _, _, _, .nothing closed => length_lt_of_pastGaps closed
  | _, _, _, .values lead value later => by
    have shorter := length_le_of_lead lead
    have fewer := length_lt_of_skipped value
    have fewerLater := length_lt_of_behind later
    omega

theorem length_lt_of_behind : ∀ {frame : Frame} {input rest : List Char}, Behind frame input rest →
    rest.length < input.length
  | _, _, _, .nothing closed => length_lt_of_pastGaps closed
  | _, _, _, .values comma lead value later => by
    have fewerComma := length_lt_of_pastGaps comma
    have shorter := length_le_of_lead lead
    have fewer := length_lt_of_skipped value
    have fewerLater := length_lt_of_behind later
    omega

end

section

variable {input rest : List Char}

/-- A word is known by its first letter, which begins no other value. -/
theorem word_facts : ∀ word ∈ words, word.1 ∉ ['\x22', '-', '[', '\x7b', ']'] ∧
    isDigit word.1 = false ∧ ∀ other ∈ words, word.1 = other.1 → word.2 = other.2 := by
  decide

theorem not_word {c : Char} {cs : List Char} (sign : c ∈ ['\x22', '-', '[', '\x7b', ']']) :
    (c, cs) ∉ words := fun known => (word_facts _ known).1 sign

theorem not_digit_of_word {c : Char} {cs : List Char} (known : (c, cs) ∈ words) :
    ¬ isDigit c = true := Bool.eq_false_iff.mp (word_facts _ known).2.1

theorem scalar_word_iff {c : Char} {cs : List Char} (known : (c, cs) ∈ words) :
    Scalar c input rest ↔ input = cs ++ rest := by
  constructor
  · intro scalar
    cases scalar with
    | word other =>
      obtain rfl : cs = _ := (word_facts _ known).2.2 _ other rfl
      rfl
    | text | negative => exact absurd known (not_word (by decide))
    | number digit => exact absurd digit (not_digit_of_word known)
  · rintro rfl
    exact .word known

theorem scalar_text_iff : Scalar '\x22' input rest ↔ SkippedCharacters input rest := by
  constructor
  · intro scalar
    cases scalar with
    | word known => exact absurd known (not_word (by decide))
    | text characters => exact characters
    | number digit => exact absurd digit (by decide)
  · exact .text

theorem scalar_negative_iff : Scalar '-' input rest ↔ Numeral input rest := by
  constructor
  · intro scalar
    cases scalar with
    | word known => exact absurd known (not_word (by decide))
    | negative numeral => exact numeral
    | number digit => exact absurd digit (by decide)
  · exact .negative

theorem scalar_number_iff {c : Char} (digit : isDigit c = true) :
    Scalar c input rest ↔ Numeral (c :: input) rest := by
  constructor
  · intro scalar
    cases scalar with
    | number _ numeral => exact numeral
    | word known => exact absurd digit (not_digit_of_word known)
    | text | negative => exact absurd digit (by decide)
  · exact .number digit

theorem opening_injective {frame other : Frame} (same : opening frame = opening other) :
    frame = other := by
  cases frame <;> cases other <;> first | rfl | exact absurd same (by decide)

theorem skipped_of_unframed {c : Char} {tail : List Char} (first : pastGaps input = c :: tail)
    (unframed : c ≠ '[' ∧ c ≠ '\x7b') : Skipped input rest ↔ Scalar c tail rest := by
  constructor
  · intro skipped
    cases skipped with
    | scalar same scalar =>
      cases first.symm.trans same
      exact scalar
    | @frame frame _ _ _ same =>
      cases first.symm.trans same
      cases frame
      · exact absurd rfl unframed.1
      · exact absurd rfl unframed.2
  · exact .scalar first

theorem skipped_of_framed (frame : Frame) {tail : List Char}
    (first : pastGaps input = opening frame :: tail) :
    Skipped input rest ↔ Inside frame tail rest := by
  constructor
  · intro skipped
    cases skipped with
    | scalar same scalar =>
      cases first.symm.trans same
      cases frame <;> cases scalar with
      | word known => exact absurd known (not_word (by decide))
      | number digit => exact absurd digit (by decide)
    | @frame other _ _ _ same inside =>
      obtain ⟨sameSign, rfl⟩ := List.cons.inj (first.symm.trans same)
      obtain rfl := opening_injective sameSign
      exact inside
  · exact .frame first

theorem first_of_skipped (skipped : Skipped input rest) :
    ∃ c tail, pastGaps input = c :: tail ∧ c ≠ ']' := by
  cases skipped with
  | scalar first scalar =>
    refine ⟨_, _, first, ?_⟩
    rintro rfl
    cases scalar with
    | word known => exact absurd known (not_word (by decide))
    | number digit => exact absurd digit (by decide)
  | @frame frame _ _ _ first => exact ⟨_, _, first, by cases frame <;> decide⟩

/-- Gaps before a value belong to it. -/
theorem skipped_pastGaps : Skipped (pastGaps input) rest ↔ Skipped input rest := by
  constructor
  · intro skipped
    cases skipped with
    | scalar first scalar => exact .scalar (pastGaps_pastGaps input ▸ first) scalar
    | frame first inside => exact .frame (pastGaps_pastGaps input ▸ first) inside
  · intro skipped
    cases skipped with
    | scalar first scalar => exact .scalar ((pastGaps_pastGaps input).trans first) scalar
    | frame first inside => exact .frame ((pastGaps_pastGaps input).trans first) inside

variable {frame : Frame}

/-- Gaps before a value and what leads to it belong to it. -/
theorem entered_pastGaps : Entered frame (pastGaps input) rest ↔ Entered frame input rest := by
  cases frame with
  | list => simp [Entered, Lead, skipped_pastGaps]
  | object => simp [Entered, Lead, SkippedKey, pastGaps_pastGaps]

/-- A list or an object does not end where a value of it begins. -/
theorem first_of_entered (entered : Entered frame input rest) :
    ∃ c tail, pastGaps input = c :: tail ∧ c ≠ Reader.closing frame := by
  obtain ⟨start, lead, skipped⟩ := entered
  cases frame with
  | list =>
    obtain rfl : input = start := lead
    exact first_of_skipped skipped
  | object =>
    obtain ⟨text, middle, quote, -⟩ := lead
    exact ⟨_, _, quote, by decide⟩

theorem not_inside_of_nothing (nothing : pastGaps input = []) : ¬ Inside frame input rest := by
  intro inside
  cases inside with
  | nothing closed => cases nothing.symm.trans closed
  | values lead value =>
    obtain ⟨c, tail, first, -⟩ := first_of_entered ⟨_, lead, value⟩
    cases nothing.symm.trans first

theorem inside_of_closing {tail : List Char}
    (closed : pastGaps input = Reader.closing frame :: tail) : Inside frame input rest ↔ tail = rest := by
  constructor
  · intro inside
    cases inside with
    | nothing same => exact (List.cons.inj (closed.symm.trans same)).2
    | values lead value =>
      obtain ⟨c, other, first, opens⟩ := first_of_entered ⟨_, lead, value⟩
      exact absurd (List.cons.inj (first.symm.trans closed)).1 opens
  · rintro rfl
    exact .nothing closed

theorem inside_of_open (opens : ∀ tail, pastGaps input ≠ Reader.closing frame :: tail) :
    Inside frame input rest ↔ ∃ middle, Entered frame input middle ∧ Behind frame middle rest := by
  constructor
  · intro inside
    cases inside with
    | nothing closed => exact absurd closed (opens _)
    | values lead value later => exact ⟨_, ⟨_, lead, value⟩, later⟩
  · rintro ⟨middle, ⟨start, lead, value⟩, later⟩
    exact .values lead value later

theorem comma_ne_closing : ',' ≠ Reader.closing frame := by
  cases frame <;> decide

theorem behind_of_closing {tail : List Char}
    (closed : pastGaps input = Reader.closing frame :: tail) : Behind frame input rest ↔ tail = rest := by
  constructor
  · intro behind
    cases behind with
    | nothing same => exact (List.cons.inj (closed.symm.trans same)).2
    | values comma =>
      exact absurd (List.cons.inj (comma.symm.trans closed)).1 comma_ne_closing
  · rintro rfl
    exact .nothing closed

theorem behind_of_comma {tail : List Char} (comma : pastGaps input = ',' :: tail) :
    Behind frame input rest ↔ ∃ middle, Entered frame tail middle ∧ Behind frame middle rest := by
  constructor
  · intro behind
    cases behind with
    | nothing closed => exact absurd (List.cons.inj (comma.symm.trans closed)).1 comma_ne_closing
    | values same lead value later =>
      cases comma.symm.trans same
      exact ⟨_, ⟨_, lead, value⟩, later⟩
  · rintro ⟨middle, ⟨start, lead, value⟩, later⟩
    exact .values comma lead value later

theorem not_behind_of_nothing (nothing : pastGaps input = []) : ¬ Behind frame input rest := by
  intro behind
  cases behind with
  | nothing closed => cases nothing.symm.trans closed
  | values comma => cases nothing.symm.trans comma

theorem closed_cons_iff {frames : List Frame} :
    Closed (frame :: frames) input rest ↔
      ∃ middle, Behind frame input middle ∧ Closed frames middle rest := by
  constructor
  · intro closed
    cases closed with
    | around inner outer => exact ⟨_, inner, outer⟩
  · rintro ⟨middle, inner, outer⟩
    exact .around inner outer

/-- A value that is entered is followed by what closes its frame, and then by what closes the others. -/
theorem entered_then_closed_iff {frames : List Frame} :
    (∃ middle, (∃ between, Entered frame input between ∧ Behind frame between middle) ∧
        Closed frames middle rest) ↔
      ∃ between, Entered frame input between ∧ Closed (frame :: frames) between rest := by
  simp only [closed_cons_iff]
  constructor
  · rintro ⟨middle, ⟨between, entered, later⟩, closed⟩
    exact ⟨between, entered, middle, later, closed⟩
  · rintro ⟨between, entered, middle, later, closed⟩
    exact ⟨middle, ⟨between, entered, later⟩, closed⟩

@[simp] theorem closed_nil_iff : Closed [] input rest ↔ input = rest := by
  constructor
  · intro closed
    cases closed with
    | done => rfl
  · rintro rfl
    exact .done

end

end Grammar

namespace Reader

theorem follows_skipKey : skipKey.Follows fun input _ rest => SkippedKey input rest := by
  apply Follows.past_gaps fun input _ rest =>
    ∃ text middle, input = '\x22' :: text ∧ SkippedCharacters text middle ∧
      pastGaps middle = ':' :: rest
  apply Follows.of_peek
  · simp
  · intro c tail position done rest
    by_cases quote : c = '\x22'
    · subst quote
      refine Iff.trans ((follows_skipTextBody.bind fun _ => follows_colon).reads_iff
        ⟨tail, position.after '\x22'⟩) ?_
      constructor
      · rintro ⟨_, middle, characters, colon⟩
        exact ⟨tail, middle, rfl, characters, colon⟩
      · rintro ⟨text, middle, same, characters, colon⟩
        cases same
        exact ⟨(), middle, characters, colon⟩
    · simp [quote]

/-- With that much fuel a value is skipped, and all that encloses it. -/
def SkipsValue (fuel : Nat) : Prop :=
  ∀ frames cursor rest, 2 * cursor.rest.length + 1 ≤ fuel →
    ((skipValue fuel frames).Reads cursor () rest ↔
      ∃ middle, Skipped cursor.rest middle ∧ Closed frames middle rest)

/-- With that much fuel the inside of a list or an object is skipped, and all that encloses it. -/
def SkipsInside (fuel : Nat) : Prop :=
  ∀ frame frames cursor rest, 2 * cursor.rest.length + 2 ≤ fuel →
    ((skipInside fuel frame frames).Reads cursor () rest ↔
      ∃ middle, Inside frame cursor.rest middle ∧ Closed frames middle rest)

/-- With that much fuel all that encloses a value is skipped from behind it. -/
def SkipsBehind (fuel : Nat) : Prop :=
  ∀ frames cursor rest, 1 ≤ fuel → 2 * cursor.rest.length ≤ fuel →
    ((skipBehind fuel frames).Reads cursor () rest ↔ Closed frames cursor.rest rest)

theorem length_le_of_literal {cs input rest : List Char} (same : input = cs ++ rest) :
    rest.length ≤ input.length := by
  rw [same, List.length_append]
  omega

/-- A scalar is read, and then what stands behind it. -/
theorem reads_scalar {body : Reader Unit} {rule : List Char → List Char → Prop} {fuel : Nat}
    {frames : List Frame} {c : Char} {tail rest : List Char} {position : Position}
    (follows : body.Follows fun input _ rest => rule input rest)
    (shorter : ∀ {middle}, rule tail middle → middle.length ≤ tail.length)
    (behind : SkipsBehind fuel) (enough : 2 * tail.length + 2 ≤ fuel) :
    (take >>= fun _ => body >>= fun _ => skipBehind fuel frames).Reads ⟨c :: tail, position⟩ () rest ↔
      ∃ middle, rule tail middle ∧ Closed frames middle rest := by
  rw [reads_take, follows.reads_bind fun _ middle => Closed frames middle rest]
  · simp
  · intro _ middle position allowed
    have fewer := shorter allowed
    exact behind frames ⟨middle, position⟩ rest (by omega) (by dsimp only; omega)

theorem reads_word {fuel : Nat} {frames : List Frame} {c : Char} {cs tail rest : List Char}
    {position : Position} (known : (c, cs) ∈ words) (behind : SkipsBehind fuel)
    (enough : 2 * tail.length + 2 ≤ fuel) :
    (take >>= fun _ => literal cs >>= fun _ => skipBehind fuel frames).Reads ⟨c :: tail, position⟩ ()
        rest ↔ ∃ middle, Scalar c tail middle ∧ Closed frames middle rest := by
  simp only [scalar_word_iff known]
  exact reads_scalar (follows_literal cs) length_le_of_literal behind enough

/-- A number is read from its first digit on, and then what stands behind it. -/
theorem reads_number {fuel : Nat} {frames : List Frame} {c : Char} {tail rest : List Char}
    {position : Position} (behind : SkipsBehind fuel) (enough : 2 * tail.length + 2 ≤ fuel) :
    (skipNumberBody >>= fun _ => skipBehind fuel frames).Reads ⟨c :: tail, position⟩ () rest ↔
      ∃ middle, Numeral (c :: tail) middle ∧ Closed frames middle rest := by
  rw [follows_skipNumberBody.reads_bind fun _ middle => Closed frames middle rest]
  · simp
  · intro _ middle position numeral
    have shorter := length_lt_of_numeral numeral
    simp only [List.length_cons] at shorter
    exact behind frames ⟨middle, position⟩ rest (by omega) (by dsimp only; omega)

theorem skipsValue_succ {fuel : Nat} (inside : SkipsInside fuel) (behind : SkipsBehind fuel) :
    SkipsValue (fuel + 1) := by
  intro frames cursor rest enough
  rw [skipValue, reads_peekPastGaps]
  cases held : pastGaps cursor.rest with
  | nil =>
    have never (middle : List Char) : ¬ Skipped cursor.rest middle := by
      intro skipped
      obtain ⟨c, tail, first, -⟩ := first_of_skipped skipped
      cases held.symm.trans first
    simp [never]
  | cons c tail =>
    have fewer := length_lt_of_pastGaps held
    have enoughBehind : 2 * tail.length + 2 ≤ fuel := by omega
    rw [List.head?_cons]
    split
    case h_1 same => cases same
    case h_2 same =>
      cases same
      simp only [skipped_of_unframed held (by decide)]
      exact reads_word (by decide) behind enoughBehind
    case h_3 same =>
      cases same
      simp only [skipped_of_unframed held (by decide)]
      exact reads_word (by decide) behind enoughBehind
    case h_4 same =>
      cases same
      simp only [skipped_of_unframed held (by decide)]
      exact reads_word (by decide) behind enoughBehind
    case h_5 same =>
      cases same
      simp only [skipped_of_unframed held (by decide), scalar_negative_iff]
      exact reads_scalar follows_skipNumberBody
        (fun numeral => Nat.le_of_lt (length_lt_of_numeral numeral)) behind enoughBehind
    case h_6 same =>
      cases same
      simp only [skipped_of_unframed held (by decide), scalar_text_iff]
      exact reads_scalar follows_skipTextBody
        (fun skipped => Nat.le_of_lt (length_lt_of_skippedCharacters skipped)) behind enoughBehind
    case h_7 same =>
      cases same
      rw [reads_take, inside .list frames ⟨tail, _⟩ rest enoughBehind]
      simp only [skipped_of_framed .list held]
    case h_8 same =>
      cases same
      rw [reads_take, inside .object frames ⟨tail, _⟩ rest enoughBehind]
      simp only [skipped_of_framed .object held]
    case h_9 notNull notYes notNo notNegative notText notList notObject same =>
      cases same
      simp only [skipped_of_unframed held ⟨notList, notObject⟩]
      by_cases digit : isDigit c = true
      · simp only [digit, if_true, scalar_number_iff digit]
        exact reads_number behind enoughBehind
      · have never (middle : List Char) : ¬ Scalar c tail middle := by
          intro scalar
          cases scalar with
          | word known =>
            simp only [words, List.mem_cons, Prod.mk.injEq, List.not_mem_nil, or_false] at known
            rcases known with ⟨same, -⟩ | ⟨same, -⟩ | ⟨same, -⟩
            · exact notNull same
            · exact notYes same
            · exact notNo same
          | text => exact notText rfl
          | negative => exact notNegative rfl
          | number isOne => exact digit isOne
        simp [digit, never]

/-- A value in a list is skipped, and then all that encloses it. -/
theorem reads_element {fuel : Nat} (value : SkipsValue fuel) {frames : List Frame} {cursor : Cursor}
    {rest : List Char} (enough : 2 * cursor.rest.length + 1 ≤ fuel) :
    (skipValue fuel (.list :: frames)).Reads cursor () rest ↔
      ∃ middle, Entered .list cursor.rest middle ∧ Closed (.list :: frames) middle rest := by
  rw [value _ cursor rest enough]
  simp [Entered, Lead]

/-- A value in an object is skipped behind its key, and then all that encloses it. -/
theorem reads_member {fuel : Nat} (value : SkipsValue fuel) {frames : List Frame} {cursor : Cursor}
    {rest : List Char} (enough : 2 * cursor.rest.length + 1 ≤ fuel) :
    (skipKey >>= fun _ => skipValue fuel (.object :: frames)).Reads cursor () rest ↔
      ∃ middle, Entered .object cursor.rest middle ∧ Closed (.object :: frames) middle rest := by
  rw [follows_skipKey.reads_bind fun _ start =>
    ∃ middle, Skipped start middle ∧ Closed (.object :: frames) middle rest]
  · constructor
    · rintro ⟨_, start, key, middle, skipped, closed⟩
      exact ⟨middle, ⟨start, key, skipped⟩, closed⟩
    · rintro ⟨middle, ⟨start, key, skipped⟩, closed⟩
      exact ⟨(), start, key, middle, skipped, closed⟩
  · intro _ start position key
    have fewer := length_lt_of_skippedKey key
    exact value _ ⟨start, position⟩ rest (by dsimp only; omega)

theorem skipsInside_succ {fuel : Nat} (value : SkipsValue fuel) (behind : SkipsBehind fuel) :
    SkipsInside (fuel + 1) := by
  intro frame frames cursor rest enough
  rw [skipInside.eq_def]
  dsimp only
  rw [reads_peekPastGaps]
  cases held : pastGaps cursor.rest with
  | nil => simp [not_inside_of_nothing held]
  | cons c tail =>
    have fewer := length_lt_of_pastGaps held
    have same := length_pastGaps_le cursor.rest
    rw [List.head?_cons]
    dsimp only
    split
    · rename_i closed
      subst closed
      rw [reads_take, behind frames ⟨tail, _⟩ rest (by omega) (by dsimp only; omega)]
      simp [inside_of_closing held]
    · rename_i opens
      have opens (other : List Char) : pastGaps cursor.rest ≠ closing frame :: other := by
        intro closed
        exact opens (List.cons.inj (held.symm.trans closed)).1
      have insideIff : (∃ middle, Inside frame cursor.rest middle ∧ Closed frames middle rest) ↔
          ∃ middle, Entered frame (c :: tail) middle ∧ Closed (frame :: frames) middle rest := by
        simp only [inside_of_open opens, entered_then_closed_iff]
        rw [← held]
        simp only [entered_pastGaps]
      rw [insideIff]
      rw [held] at same
      cases frame
      · exact reads_element value (by dsimp only; omega)
      · exact reads_member value (by dsimp only; omega)

theorem skipsBehind_succ {fuel : Nat} (value : SkipsValue fuel) (behind : SkipsBehind fuel) :
    SkipsBehind (fuel + 1) := by
  intro frames cursor rest _ enough
  cases frames with
  | nil =>
    rw [skipBehind.eq_def]
    simp
  | cons frame frames =>
    rw [skipBehind.eq_def]
    dsimp only
    rw [reads_peekPastGaps]
    cases held : pastGaps cursor.rest with
    | nil => simp [closed_cons_iff, not_behind_of_nothing held]
    | cons c tail =>
      have fewer := length_lt_of_pastGaps held
      rw [List.head?_cons, closed_cons_iff]
      split
      case h_1 same => cases same
      case h_2 same =>
        cases same
        have behindIff : (∃ middle, Behind frame cursor.rest middle ∧ Closed frames middle rest) ↔
            ∃ middle, Entered frame tail middle ∧ Closed (frame :: frames) middle rest := by
          simp only [behind_of_comma held, entered_then_closed_iff]
        rw [reads_take, behindIff]
        cases frame
        · exact reads_element value (by dsimp only; omega)
        · exact reads_member value (by dsimp only; omega)
      case h_3 notComma same =>
        cases same
        split
        · rename_i closed
          subst closed
          rw [reads_take, behind frames ⟨tail, _⟩ rest (by omega) (by dsimp only; omega)]
          simp [behind_of_closing held]
        · rename_i opens
          have never (middle : List Char) : ¬ Behind frame cursor.rest middle := by
            intro behind
            cases behind with
            | nothing closed => exact opens (List.cons.inj (held.symm.trans closed)).1
            | values comma => exact notComma (List.cons.inj (held.symm.trans comma)).1
          simp [never]

/-- Any fuel is enough for what it bounds. -/
theorem skips (fuel : Nat) : SkipsValue fuel ∧ SkipsInside fuel ∧ SkipsBehind fuel := by
  induction fuel with
  | zero =>
    refine ⟨?_, ?_, ?_⟩
    · intro frames cursor rest enough
      omega
    · intro frame frames cursor rest enough
      omega
    · intro frames cursor rest enough
      omega
  | succ fuel inductionHypothesis =>
    obtain ⟨value, inside, behind⟩ := inductionHypothesis
    exact ⟨skipsValue_succ inside behind, skipsInside_succ value behind,
      skipsBehind_succ value behind⟩

/-- What is skipped is a value. -/
theorem follows_skip : skip.Follows fun input _ rest => Skipped input rest := by
  constructor
  intro cursor done rest
  have value := (skips (2 * (cursor.rest.length + 1))).1 [] cursor rest (by omega)
  rw [skip, reads_fuel, value]
  simp

end Reader

end ComponentInstall.Json
