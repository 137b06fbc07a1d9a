import ComponentInstall.Proofs.Json.Objects

/-!
# Values that are moved to another place

What a value says is in its own characters. Neither the gaps before it matter nor what stands behind it,
as long as that does not go on with it: a digit behind a number would belong to the number. So every part
of a document can be taken out and put before something else, and a value that stands in an object or in
a list can be read alone.

`Moves` says this of one part. Parts that follow each other move together, and every rule of the language
moves along its own recursion.
-/

namespace ComponentInstall.Json

open Grammar Text

/-- What may stand behind a number: nothing that would go on with it. -/
def Stops (rest : List Char) : Prop :=
  ∀ c, rest.head? = some c → isDigit c = false ∧ c ≠ '.' ∧ c ≠ 'e' ∧ c ≠ 'E'

/-- The characters up to a rest, and what is said of them, can be put before every rest that is
allowed. -/
def Moves (allowed : List Char → Prop) (part : List Char → List Char → Prop)
    (input rest : List Char) : Prop :=
  ∃ written, input = written ++ rest ∧ ∀ other, allowed other → part (written ++ other) other

/-- Anything may stand behind. -/
abbrev Anything : List Char → Prop := fun _ => True

theorem stops_nil : Stops [] := by
  rintro c ⟨⟩

/-- No gap goes on with a number, so only what is behind the gaps matters. -/
theorem stops_of_pastGaps {input : List Char} (stops : Stops (pastGaps input)) : Stops input := by
  cases input with
  | nil => exact stops_nil
  | cons c tail =>
    by_cases gap : Reader.isGap c = true
    · rintro _ ⟨⟩
      simp only [Reader.isGap, Bool.or_eq_true, decide_eq_true_eq] at gap
      rcases gap with ((rfl | rfl) | rfl) | rfl <;> decide
    · rwa [pastGaps, List.dropWhile_cons_of_neg gap] at stops

theorem stops_of_sign {input rest : List Char} {sign : Char} (next : pastGaps input = sign :: rest)
    (known : sign ∈ [',', ']', '\x7d']) : Stops input := by
  apply stops_of_pastGaps
  rw [next]
  rintro _ ⟨⟩
  simp only [List.mem_cons, List.not_mem_nil, or_false] at known
  rcases known with rfl | rfl | rfl <;> decide

namespace Moves

variable {allowed allowedLater : List Char → Prop} {one two part whole : List Char → List Char → Prop}
  {input middle rest : List Char}

theorem imp (moves : Moves allowed part input rest)
    (gives : ∀ {input rest}, allowed rest → part input rest → whole input rest) :
    Moves allowed whole input rest := by
  obtain ⟨written, same, holds⟩ := moves
  exact ⟨written, same, fun other fits => gives fits (holds other fits)⟩

/-- What moves before all that is allowed moves before less. -/
theorem narrow (moves : Moves allowed part input rest)
    (narrower : ∀ {rest}, allowedLater rest → allowed rest) : Moves allowedLater part input rest := by
  obtain ⟨written, same, holds⟩ := moves
  exact ⟨written, same, fun other fits => holds other (narrower fits)⟩

theorem of_anything (moves : Moves Anything part input rest) : Moves allowed part input rest :=
  moves.narrow fun _ => trivial

/-- Two parts move together if the second one may stand behind the first. -/
theorem followed (first : Moves allowed one input middle) (later : Moves allowedLater two middle rest)
    (between : ∀ {input rest}, allowedLater rest → two input rest → allowed input)
    (joined : ∀ {input middle rest}, allowedLater rest → one input middle → two middle rest →
      whole input rest) : Moves allowedLater whole input rest := by
  obtain ⟨front, rfl, holds⟩ := first
  obtain ⟨back, rfl, holdsLater⟩ := later
  refine ⟨front ++ back, (List.append_assoc ..).symm, fun other fits => ?_⟩
  have second := holdsLater other fits
  rw [List.append_assoc]
  exact joined fits (holds _ (between fits second)) second

/-- A part moves with the characters before it. -/
theorem behind (cs : List Char) (later : Moves allowed two input rest)
    (joined : ∀ {input rest}, allowed rest → two input rest → whole (cs ++ input) rest) :
    Moves allowed whole (cs ++ input) rest := by
  obtain ⟨written, rfl, holds⟩ := later
  refine ⟨cs ++ written, (List.append_assoc ..).symm, fun other fits => ?_⟩
  rw [List.append_assoc]
  exact joined fits (holds other fits)

/-- Characters move by themselves. -/
theorem characters (cs : List Char) (holds : ∀ {rest}, part (cs ++ rest) rest) :
    Moves allowed part (cs ++ rest) rest :=
  ⟨cs, rfl, fun _ _ => holds⟩

/-- Gaps move with the sign behind them. -/
theorem sign {c : Char} (next : pastGaps input = c :: rest) :
    Moves Anything (fun input rest => pastGaps input = c :: rest) input rest := by
  have noGap : ¬ Reader.isGap c = true := by
    have stopped := List.head?_dropWhile_not Reader.isGap input
    rw [← pastGaps, next] at stopped
    simpa using stopped
  refine ⟨input.takeWhile Reader.isGap ++ [c], ?_, fun other _ => ?_⟩
  · rw [List.append_assoc, List.singleton_append, ← next]
    exact (List.takeWhile_append_dropWhile ..).symm
  · change (_ : List Char).dropWhile Reader.isGap = _
    rw [List.append_assoc, List.singleton_append,
      List.dropWhile_append_of_pos fun _ => List.mem_takeWhile_imp, List.dropWhile_cons_of_neg noGap]

/-- A part moves with the sign before it. -/
theorem behindSign {c : Char} (next : pastGaps input = c :: middle)
    (later : Moves allowed two middle rest)
    (joined : ∀ {input middle rest}, allowed rest → pastGaps input = c :: middle → two middle rest →
      whole input rest) : Moves allowed whole input rest :=
  (sign next).followed later (fun _ _ => trivial) joined

end Moves

section

variable {allowed : List Char → Prop} {input rest : List Char}

theorem moves_characters {cs : List Char} (characters : Characters input cs rest) :
    Moves Anything (fun input rest => Characters input cs rest) input rest := by
  induction characters with
  | done => exact Moves.characters ['\x22'] .done
  | @plain c _ _ _ unescaped _ inductionHypothesis =>
    exact inductionHypothesis.behind [c] fun _ later => .plain unescaped later
  | @named letter _ _ _ _ names _ inductionHypothesis =>
    exact inductionHypothesis.behind ['\\', letter] fun _ later => .named names later
  | @unit a b c d _ _ _ _ digits whole _ inductionHypothesis =>
    exact inductionHypothesis.behind ['\\', 'u', a, b, c, d] fun _ later => .unit digits whole later
  | @pair a b c d e f g h _ _ _ _ _ first isUpper second isLower _ inductionHypothesis =>
    exact inductionHypothesis.behind ['\\', 'u', a, b, c, d, '\\', 'u', e, f, g, h]
      fun _ later => .pair first isUpper second isLower later

theorem moves_skippedCharacters (skipped : SkippedCharacters input rest) :
    Moves Anything SkippedCharacters input rest := by
  induction skipped with
  | done => exact Moves.characters ['\x22'] .done
  | @plain c _ _ unescaped _ inductionHypothesis =>
    exact inductionHypothesis.behind [c] fun _ later => .plain unescaped later
  | @named letter _ _ _ names _ inductionHypothesis =>
    exact inductionHypothesis.behind ['\\', letter] fun _ later => .named names later
  | @unit a b c d _ _ _ digits _ inductionHypothesis =>
    exact inductionHypothesis.behind ['\\', 'u', a, b, c, d] fun _ later => .unit digits later

/-- No digit comes next. -/
def NoDigit (rest : List Char) : Prop := ∀ c, rest.head? = some c → isDigit c = false

theorem noDigit_nil : NoDigit [] := by
  rintro c ⟨⟩

theorem dropWhile_of_noDigit (noDigit : NoDigit rest) : rest.dropWhile isDigit = rest := by
  cases rest with
  | nil => rfl
  | cons c tail => exact List.dropWhile_cons_of_neg (by simp [noDigit c rfl])

/-- A run of digits ends before anything that is no digit. -/
theorem moves_run (input : List Char) :
    Moves NoDigit (fun input rest => input.dropWhile isDigit = rest) input
      (input.dropWhile isDigit) := by
  refine ⟨input.takeWhile isDigit, (List.takeWhile_append_dropWhile ..).symm, fun other noDigit => ?_⟩
  change (_ : List Char).dropWhile isDigit = _
  rw [List.dropWhile_append_of_pos fun _ => List.mem_takeWhile_imp, dropWhile_of_noDigit noDigit]

theorem moves_digits (digits : Digits input rest) : Moves NoDigit Digits input rest := by
  obtain ⟨⟨c, first, digit⟩, rfl⟩ := digits
  obtain ⟨tail, rfl⟩ := List.head?_eq_some_iff.mp first
  rw [List.dropWhile_cons_of_pos digit]
  apply (moves_run tail).behind [c]
  rintro tail rest - rfl
  exact digits_cons_iff.mpr ⟨digit, List.dropWhile_cons_of_pos digit⟩

/-- Digits have no sign. -/
theorem unsigned_of_digits (digits : Digits input rest) : unsigned input = input := by
  obtain ⟨⟨c, first, digit⟩, -⟩ := digits
  obtain ⟨tail, rfl⟩ := List.head?_eq_some_iff.mp first
  unfold unsigned
  split
  · rename_i same
    cases same
    exact absurd digit (by decide)
  · rename_i same
    cases same
    exact absurd digit (by decide)
  · rfl

theorem moves_unsignedDigits (digits : Digits (unsigned input) rest) :
    Moves NoDigit (fun input rest => Digits (unsigned input) rest) input rest := by
  unfold unsigned at digits
  split at digits
  · exact (moves_digits digits).behind ['+'] fun _ digits => digits
  · exact (moves_digits digits).behind ['-'] fun _ digits => digits
  · apply (moves_digits digits).imp
    intro input rest _ digits
    rwa [unsigned_of_digits digits]

theorem noDigit_of_stops (stops : Stops rest) : NoDigit rest := fun c first => (stops c first).1

theorem moves_exponent (exponent : Exponent input rest) : Moves Stops Exponent input rest := by
  cases exponent with
  | absent none =>
    refine ⟨[], rfl, fun other stops => .absent ⟨?_, ?_⟩⟩
    · exact fun first => (stops _ first).2.2.1 rfl
    · exact fun first => (stops _ first).2.2.2 rfl
  | @present letter _ _ begins digits =>
    exact ((moves_unsignedDigits digits).narrow noDigit_of_stops).behind [letter]
      fun _ digits => .present begins digits

/-- Neither a digit nor a point comes next where an exponent may. -/
theorem first_of_exponent (stops : Stops rest) (exponent : Exponent input rest) :
    NoDigit input ∧ input.head? ≠ some '.' := by
  cases exponent with
  | absent => exact ⟨noDigit_of_stops stops, fun first => (stops _ first).2.1 rfl⟩
  | present begins =>
    refine ⟨?_, ?_⟩
    · rintro _ ⟨⟩
      rcases begins with rfl | rfl <;> decide
    · rintro ⟨⟩
      exact absurd begins (by decide)

theorem moves_fraction (fraction : Fraction input rest) : Moves Stops Fraction input rest := by
  cases fraction with
  | absent none exponent =>
    apply (moves_exponent exponent).imp
    intro input rest stops exponent
    exact .absent (first_of_exponent stops exponent).2 exponent
  | @present input middle rest digits exponent =>
    -- The digits end where the exponent begins, or where the number does.
    have moves : Moves Stops (fun input rest => Fraction ('.' :: input) rest) input rest := by
      apply (moves_digits digits).followed (moves_exponent exponent)
      · exact fun stops exponent => (first_of_exponent stops exponent).1
      · exact fun _ digits exponent => .present digits exponent
    exact moves.behind ['.'] fun _ fraction => fraction

theorem noDigit_of_fraction (stops : Stops rest) (fraction : Fraction input rest) : NoDigit input := by
  cases fraction with
  | absent _ exponent => exact (first_of_exponent stops exponent).1
  | present =>
    rintro _ ⟨⟩
    decide

theorem moves_numeral (numeral : Numeral input rest) : Moves Stops Numeral input rest := by
  cases numeral with
  | @zero input rest alone later =>
    exact (moves_fraction later).behind ['0']
      fun stops fraction => .zero (noDigit_of_fraction stops fraction) fraction
  | @other c input rest nonzero digit later =>
    have moves : Moves Stops (fun input rest => Fraction (input.dropWhile isDigit) rest) input rest := by
      apply (moves_run input).followed (moves_fraction later)
      · exact noDigit_of_fraction
      · rintro input _ rest - rfl fraction
        exact fraction
    exact moves.behind [c] fun _ fraction => .other nonzero digit fraction

theorem moves_scalar {c : Char} (scalar : Scalar c input rest) : Moves Stops (Scalar c) input rest := by
  cases scalar with
  | @word _ cs _ known => exact Moves.characters cs (.word known)
  | text characters =>
    exact (moves_skippedCharacters characters).of_anything.imp fun _ characters => .text characters
  | negative numeral => exact (moves_numeral numeral).imp fun _ numeral => .negative numeral
  | number digit numeral =>
    obtain ⟨written, same, holds⟩ := moves_numeral numeral
    cases written with
    | nil =>
      have fewer := length_lt_of_numeral numeral
      rw [← List.nil_append rest, ← same] at fewer
      exact absurd fewer (Nat.lt_irrefl _)
    | cons first written =>
      obtain ⟨rfl, rfl⟩ := List.cons.inj same
      exact ⟨written, rfl, fun other stops => .number digit (holds other stops)⟩

theorem moves_lead {frame : Frame} (lead : Lead frame input rest) :
    Moves Anything (Lead frame) input rest := by
  cases frame with
  | list =>
    obtain rfl : input = rest := lead
    exact Moves.characters [] rfl
  | object =>
    obtain ⟨text, middle, quote, characters, colon⟩ := lead
    have behindQuote : Moves Anything (fun text rest => ∃ middle, SkippedCharacters text middle ∧
        pastGaps middle = ':' :: rest) text rest := by
      apply (moves_skippedCharacters characters).followed (Moves.sign colon) fun _ _ => trivial
      exact fun _ characters colon => ⟨_, characters, colon⟩
    apply behindQuote.behindSign quote
    rintro input text rest - quote ⟨middle, characters, colon⟩
    exact ⟨text, middle, quote, characters, colon⟩

theorem stops_of_behind {frame : Frame} (behind : Behind frame input rest) : Stops input := by
  cases behind with
  | nothing closed => exact stops_of_sign closed (by cases frame <;> decide)
  | values comma => exact stops_of_sign comma (by decide)

/-- A value moves with what stands before it and behind it in its frame. -/
theorem moves_entered {frame : Frame} {start middle : List Char} (lead : Lead frame input start)
    (value : Moves Stops Skipped start middle) (later : Moves Anything (Behind frame) middle rest) :
    Moves Anything (fun input rest => ∃ middle, Entered frame input middle ∧ Behind frame middle rest)
      input rest := by
  have entered : Moves Stops (Entered frame) input middle := by
    apply (moves_lead lead).followed value fun _ _ => trivial
    exact fun _ lead value => ⟨_, lead, value⟩
  apply entered.followed later fun _ => stops_of_behind
  exact fun _ entered behind => ⟨_, entered, behind⟩

mutual

/-- Only a number that stands by itself asks for what is behind it. In a list or an object every value is
followed by a comma or by the closing sign. -/
theorem moves_skipped : ∀ {input rest : List Char}, Skipped input rest → Moves Stops Skipped input rest
  | _, _, .scalar first scalar =>
    (moves_scalar scalar).behindSign first fun _ first scalar => .scalar first scalar
  | _, _, .frame first inside =>
    (moves_inside inside).of_anything.behindSign first fun _ first inside => .frame first inside

theorem moves_inside : ∀ {frame : Frame} {input rest : List Char}, Inside frame input rest →
    Moves Anything (Inside frame) input rest
  | _, _, _, .nothing closed => (Moves.sign closed).imp fun _ closed => .nothing closed
  | _, _, _, .values lead value later => by
    apply (moves_entered lead (moves_skipped value) (moves_behind later)).imp
    rintro input rest - ⟨middle, ⟨start, lead, value⟩, later⟩
    exact .values lead value later

theorem moves_behind : ∀ {frame : Frame} {input rest : List Char}, Behind frame input rest →
    Moves Anything (Behind frame) input rest
  | _, _, _, .nothing closed => (Moves.sign closed).imp fun _ closed => .nothing closed
  | _, _, _, .values comma lead value later => by
    apply (moves_entered lead (moves_skipped value) (moves_behind later)).behindSign comma
    rintro input behind rest - comma ⟨middle, ⟨start, lead, value⟩, later⟩
    exact .values comma lead value later

end

/-- Characters behind gaps move with them, as long as there is one. -/
theorem moves_word {c : Char} {cs : List Char} (next : pastGaps input = c :: cs ++ rest) :
    Moves allowed (fun input rest => pastGaps input = c :: cs ++ rest) input rest := by
  have tail : Moves allowed (fun input rest => input = cs ++ rest) (cs ++ rest) rest :=
    Moves.characters cs rfl
  apply tail.behindSign next
  rintro input _ rest - next rfl
  exact next

theorem moves_quoted {s : String} (quoted : Quoted input s rest) :
    Moves Anything (fun input rest => Quoted input s rest) input rest := by
  obtain ⟨behind, quote, characters⟩ := quoted
  exact (moves_characters characters).behindSign quote fun _ quote characters => ⟨_, quote, characters⟩

end

end ComponentInstall.Json
