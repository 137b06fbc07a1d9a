import ComponentInstall.Proofs.Json.Grammar

/-!
# Texts follow their rules

What is read of a text, and what is skipped of one, is what the rules for its characters allow. Reading
is taken apart along its own recursion: of all its cases only those that read on can succeed, and each of
them is one case of the rule. The other way round a rule is followed by induction on it.
-/

namespace ComponentInstall.Json

open Grammar

theorem withFirst_eq_ok_iff {c : Char} {result : Except Fault (List Char) × Cursor} {cs : List Char}
    {last : Cursor} :
    withFirst c result = (.ok cs, last) ↔ ∃ later, result = (.ok later, last) ∧ c :: later = cs := by
  obtain ⟨outcome, reached⟩ := result
  cases outcome with
  | error fault => simp [withFirst, Except.map]
  | ok given =>
    constructor
    · intro same
      cases same
      exact ⟨given, rfl, rfl⟩
    · rintro ⟨_, same, rfl⟩
      cases same
      rfl

theorem characters_of_textFrom {input : List Char} {position : Position} {cs : List Char}
    {last : Cursor} (read : textFrom input position = (.ok cs, last)) :
    Characters input cs last.rest := by
  fun_induction textFrom input position generalizing cs with
  | case2 =>
    cases read
    exact .done
  | case9 =>
    rename_i first _ _ isUpper _ _ _ _ _ _ _ lower second _ isLower inductionHypothesis
    obtain ⟨later, readLater, rfl⟩ := withFirst_eq_ok_iff.mp read
    exact .pair first isUpper second isLower (inductionHypothesis readLater)
  | case14 =>
    rename_i first _ notLower notUpper inductionHypothesis
    obtain ⟨later, readLater, rfl⟩ := withFirst_eq_ok_iff.mp read
    exact .unit first ⟨eq_false_of_ne_true notUpper, eq_false_of_ne_true notLower⟩
      (inductionHypothesis readLater)
  | case16 =>
    rename_i names inductionHypothesis
    obtain ⟨later, readLater, rfl⟩ := withFirst_eq_ok_iff.mp read
    exact .named names (inductionHypothesis readLater)
  | case19 =>
    rename_i notQuote notEscape notControl inductionHypothesis
    obtain ⟨later, readLater, rfl⟩ := withFirst_eq_ok_iff.mp read
    exact .plain ⟨notQuote, notEscape, eq_false_of_ne_true notControl⟩
      (inductionHypothesis readLater)
  | _ => cases read

theorem notUnit_of_named {letter c : Char} (names : namedEscape? letter = some c) : letter ≠ 'u' := by
  rintro rfl
  cases names

theorem textFrom_of_characters {input cs rest : List Char} (characters : Characters input cs rest)
    (position : Position) : ∃ reached, textFrom input position = (.ok cs, ⟨rest, reached⟩) := by
  induction characters generalizing position with
  | done => exact ⟨_, rfl⟩
  | @plain c input cs rest unescaped later inductionHypothesis =>
    obtain ⟨notQuote, notEscape, notControl⟩ := unescaped
    obtain ⟨reached, read⟩ := inductionHypothesis (position.after c)
    refine ⟨reached, ?_⟩
    simp [textFrom, notControl, read, withFirst, Except.map]
  | @named letter c input cs rest names later inductionHypothesis =>
    obtain ⟨reached, read⟩ := inductionHypothesis ((position.after '\\').after letter)
    refine ⟨reached, ?_⟩
    simp [textFrom, notUnit_of_named names, names, read, withFirst, Except.map]
  | @unit a b c d unit input cs rest digits whole later inductionHypothesis =>
    obtain ⟨reached, read⟩ := inductionHypothesis
      (((position.after '\\').after 'u').afterAll [a, b, c, d])
    refine ⟨reached, ?_⟩
    simp [textFrom, digits, whole, read, withFirst, Except.map]
  | @pair a b c d e f g h upper lower input cs rest first isUpper second isLower later
      inductionHypothesis =>
    have notLower : isLowerSurrogate upper = false := by
      simp only [isUpperSurrogate, isLowerSurrogate, Bool.and_eq_true, decide_eq_true_eq,
        Bool.and_eq_false_iff, decide_eq_false_iff_not] at isUpper ⊢
      omega
    obtain ⟨reached, read⟩ := inductionHypothesis
      (((((position.after '\\').after 'u').afterAll [a, b, c, d]).after '\\').after 'u'
        |>.afterAll [e, f, g, h])
    refine ⟨reached, ?_⟩
    simp [textFrom, first, isUpper, notLower, second, isLower, read, withFirst, Except.map]

theorem follows_textBody :
    Reader.textBody.Follows fun input s rest => Characters input s.toList rest := by
  constructor
  intro ⟨input, position⟩ s rest
  constructor
  · rintro ⟨reached, read⟩
    obtain ⟨cs, given, rfl⟩ := map_eq_ok_iff.mp (congrArg Prod.fst read)
    have left : (textFrom input position).2 = ⟨rest, reached⟩ := congrArg Prod.snd read
    have characters := characters_of_textFrom (Prod.ext given left)
    simpa using characters
  · intro characters
    obtain ⟨reached, read⟩ := textFrom_of_characters characters position
    refine ⟨reached, ?_⟩
    simp [Reader.textBody, read, Except.map]

/-- Characters that need no escape stand between quotes as they are. -/
theorem Grammar.characters_of_plain {cs rest : List Char}
    (plain : ∀ c ∈ cs, c ≠ '\x22' ∧ c ≠ '\\' ∧ isControl c = false) :
    Characters (cs ++ '\x22' :: rest) cs rest := by
  induction cs with
  | nil => exact .done
  | cons c cs inductionHypothesis =>
    obtain ⟨here, later⟩ := List.forall_mem_cons.mp plain
    exact .plain here (inductionHypothesis later)

theorem Grammar.length_lt_of_skippedCharacters {input rest : List Char}
    (skipped : SkippedCharacters input rest) : rest.length < input.length := by
  induction skipped with
  | done => simp
  | plain | named | unit => simp only [List.length_cons]; omega

theorem Grammar.length_lt_of_characters {input cs rest : List Char}
    (characters : Characters input cs rest) : rest.length < input.length := by
  induction characters with
  | done => simp
  | plain | named | unit | pair => simp only [List.length_cons]; omega

theorem skippedCharacters_of_skipTextFrom {input : List Char} {position : Position} {last : Cursor}
    (read : skipTextFrom input position = (.ok (), last)) : SkippedCharacters input last.rest := by
  fun_induction skipTextFrom input position with
  | case2 =>
    cases read
    exact .done
  | case5 =>
    rename_i digits inductionHypothesis
    exact .unit digits (inductionHypothesis read)
  | case7 =>
    rename_i names inductionHypothesis
    exact .named names (inductionHypothesis read)
  | case10 =>
    rename_i notQuote notEscape notControl inductionHypothesis
    exact .plain ⟨notQuote, notEscape, eq_false_of_ne_true notControl⟩ (inductionHypothesis read)
  | _ => cases read

theorem skipTextFrom_of_skippedCharacters {input rest : List Char}
    (skipped : SkippedCharacters input rest) (position : Position) :
    ∃ reached, skipTextFrom input position = (.ok (), ⟨rest, reached⟩) := by
  induction skipped generalizing position with
  | done => exact ⟨_, rfl⟩
  | @plain c input rest unescaped later inductionHypothesis =>
    obtain ⟨notQuote, notEscape, notControl⟩ := unescaped
    obtain ⟨reached, read⟩ := inductionHypothesis (position.after c)
    exact ⟨reached, by simp [skipTextFrom, notControl, read]⟩
  | @named letter c input rest names later inductionHypothesis =>
    obtain ⟨reached, read⟩ := inductionHypothesis ((position.after '\\').after letter)
    exact ⟨reached, by simp [skipTextFrom, notUnit_of_named names, names, read]⟩
  | @unit a b c d unit input rest digits later inductionHypothesis =>
    obtain ⟨reached, read⟩ := inductionHypothesis
      (((position.after '\\').after 'u').afterAll [a, b, c, d])
    exact ⟨reached, by simp [skipTextFrom, digits, read]⟩

theorem follows_skipTextBody :
    Reader.skipTextBody.Follows fun input _ rest => SkippedCharacters input rest := by
  constructor
  intro ⟨input, position⟩ done rest
  constructor
  · rintro ⟨reached, read⟩
    exact skippedCharacters_of_skipTextFrom read
  · intro skipped
    exact skipTextFrom_of_skippedCharacters skipped position

end ComponentInstall.Json
