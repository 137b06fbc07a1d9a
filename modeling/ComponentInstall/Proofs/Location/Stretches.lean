import ComponentInstall.Location.Region

/-!
# Filling in a region

A template that contains the placeholder falls into two stretches at least, because no part of the
placeholder can be the beginning of another one: an opening brace stands at its beginning only. So an
occurrence is found wherever it is, whatever stands before it.

What is filled in can be read off the result then. The length of the result tells the length of what was
filled in, as often as that is repeated, and behind the first stretch it stands in full.
-/

namespace ComponentInstall.Location

/-- Whether a text begins with a word is settled before the first character that the word does not
have. -/
theorem prefix_append_cons_iff {word : List Char} {c : Char} (foreign : c ∉ word)
    (cs rest : List Char) : word <+: cs ++ c :: rest ↔ word <+: cs := by
  induction word generalizing cs with
  | nil => simp
  | cons first word inductionHypothesis =>
    obtain ⟨differs, later⟩ := List.ne_and_not_mem_of_not_mem_cons foreign
    cases cs with
    | nil => simp [List.cons_prefix_cons, Ne.symm differs]
    | cons other cs =>
      rw [List.cons_append, List.cons_prefix_cons, List.cons_prefix_cons, inductionHypothesis later]

theorem stretches_ne_nil (cs : List Char) : stretches cs ≠ [] := by
  fun_induction stretches cs with
  | case1 => exact List.cons_ne_nil _ _
  | case2 rest inductionHypothesis => exact List.cons_ne_nil _ _
  | case3 c rest other inductionHypothesis =>
    cases stretches rest <;> exact List.cons_ne_nil _ _

/-- A character at which no placeholder begins belongs to the first stretch. -/
theorem stretches_cons {c : Char} {rest : List Char} (other : ¬ placeholder <+: c :: rest) :
    stretches (c :: rest) = extend c (stretches rest) := by
  apply stretches.eq_3
  rintro behind rfl rfl
  exact other ⟨behind, rfl⟩

/-- The placeholder separates what is before it from what is behind it. -/
theorem stretches_append_placeholder (left right : List Char) :
    stretches (left ++ placeholder ++ right) = stretches left ++ stretches right := by
  fun_induction stretches left with
  | case1 => rfl
  | case2 rest inductionHypothesis => exact congrArg ([] :: ·) inductionHypothesis
  | case3 c rest other inductionHypothesis =>
    have otherStill : ¬ placeholder <+: c :: (rest ++ placeholder ++ right) := by
      rw [List.append_assoc, placeholder, List.cons_append, List.cons_prefix_cons,
        prefix_append_cons_iff (by decide)]
      rintro ⟨rfl, behind, whole⟩
      exact other behind rfl whole.symm
    have first : (c :: rest) ++ placeholder ++ right = c :: (rest ++ placeholder ++ right) := rfl
    obtain ⟨stretch, others, found⟩ := List.exists_cons_of_ne_nil (stretches_ne_nil rest)
    rw [first, stretches_cons otherStill, inductionHypothesis, found]
    rfl

/-- A template with a placeholder has something before and something behind it. -/
theorem two_le_length_stretches {cs : List Char} (held : placeholder <:+: cs) :
    2 ≤ (stretches cs).length := by
  obtain ⟨left, right, rfl⟩ := held
  have before := List.length_pos_iff.mpr (stretches_ne_nil left)
  have behind := List.length_pos_iff.mpr (stretches_ne_nil right)
  rw [stretches_append_placeholder, List.length_append]
  omega

/-- Each stretch but the first has the filling before it, whichever way texts are measured. -/
theorem measure_intercalate_cons (measure : List Char → Nat)
    (adds : ∀ left right, measure (left ++ right) = measure left + measure right)
    (filling first : List Char) (others : List (List Char)) :
    measure (List.intercalate filling (first :: others)) =
      measure first + measure others.flatten + others.length * measure filling := by
  induction others generalizing first with
  | nil =>
    have nothing : measure [] = 0 := by
      have twice := adds [] []
      rw [List.append_nil] at twice
      omega
    simp [nothing]
  | cons second others inductionHypothesis =>
    rw [List.intercalate_cons_cons, adds, adds, inductionHypothesis, List.flatten_cons, adds,
      List.length_cons, Nat.add_mul]
    omega

theorem length_intercalate (filling first : List Char) (others : List (List Char)) :
    (List.intercalate filling (first :: others)).length =
      first.length + others.flatten.length + others.length * filling.length :=
  measure_intercalate_cons List.length (fun _ _ => List.length_append) filling first others

/-- The result tells what was filled in between several stretches. -/
theorem intercalate_injective {stretches : List (List Char)} {left right : List Char}
    (several : 2 ≤ stretches.length)
    (same : List.intercalate left stretches = List.intercalate right stretches) : left = right := by
  obtain ⟨first, second, others, rfl⟩ : ∃ first second others,
      stretches = first :: second :: others := by
    match stretches, several with
    | first :: second :: others, _ => exact ⟨first, second, others, rfl⟩
  have lengths := congrArg List.length same
  rw [length_intercalate, length_intercalate, Nat.add_left_cancel_iff] at lengths
  have length : left.length = right.length := Nat.eq_of_mul_eq_mul_left (Nat.succ_pos _) lengths
  rw [List.intercalate_cons_cons, List.intercalate_cons_cons, List.append_assoc, List.append_assoc,
    List.append_cancel_left_eq] at same
  exact (List.append_inj same length).1

end ComponentInstall.Location
