import ComponentInstall.Text.Split

/-!
# Splitting undoes joining

A text is the only one that falls into its pieces at a separator, and its pieces are the only ones
without the separator that give the text when they are joined. So texts that end in equally many pieces
agree in these pieces and in what is before them.
-/

namespace ComponentInstall.Text

/-- Whatever stands between two separators is free of them. -/
theorem not_mem_of_mem_split (separator : Char) {cs piece : List Char}
    (member : piece ∈ split separator cs) : separator ∉ piece := by
  induction cs generalizing piece with
  | nil =>
    obtain rfl := List.mem_singleton.mp member
    exact List.not_mem_nil
  | cons c rest inductionHypothesis =>
    by_cases separates : c = separator
    · simp only [split, separates, if_true, List.mem_cons] at member
      rcases member with rfl | later
      · exact List.not_mem_nil
      · exact inductionHypothesis later
    · obtain ⟨first, others, behind⟩ := List.exists_cons_of_ne_nil (split_ne_nil separator rest)
      simp only [split, separates, if_false, behind, List.mem_cons] at member
      rcases member with rfl | later
      · have free : separator ∉ first := inductionHypothesis (by simp [behind])
        simp [free, Ne.symm separates]
      · exact inductionHypothesis (by simp [behind, later])

/-- The pieces with the separator between them are the text again. -/
theorem intercalate_split (separator : Char) (cs : List Char) :
    List.intercalate [separator] (split separator cs) = cs := by
  induction cs with
  | nil => rfl
  | cons c rest inductionHypothesis =>
    obtain ⟨first, others, behind⟩ := List.exists_cons_of_ne_nil (split_ne_nil separator rest)
    by_cases separates : c = separator
    · simp only [split, separates, if_true]
      rw [behind, List.intercalate_cons_cons, ← behind, inductionHypothesis]
      rfl
    · simp only [split, separates, if_false, behind]
      rw [behind] at inductionHypothesis
      rw [← inductionHypothesis]
      cases others with
      | nil => simp
      | cons second others => simp [List.intercalate_cons_cons]

/-- Splitting is what undoes joining. -/
theorem split_eq_iff (separator : Char) (cs : List Char) (pieces : List (List Char)) :
    split separator cs = pieces ↔
      pieces ≠ [] ∧ (∀ piece ∈ pieces, separator ∉ piece) ∧
        List.intercalate [separator] pieces = cs := by
  constructor
  · rintro rfl
    exact ⟨split_ne_nil separator cs, fun piece => not_mem_of_mem_split separator,
      intercalate_split separator cs⟩
  · rintro ⟨nonempty, free, rfl⟩
    induction pieces with
    | nil => exact absurd rfl nonempty
    | cons first others inductionHypothesis =>
      have firstFree : separator ∉ first := free first List.mem_cons_self
      cases others with
      | nil =>
        rw [List.intercalate_singleton]
        exact split_eq_singleton separator first firstFree
      | cons second others =>
        have othersSplit := inductionHypothesis (List.cons_ne_nil second others)
          fun piece member => free piece (List.mem_cons_of_mem first member)
        rw [List.intercalate_cons_cons, List.append_assoc, List.singleton_append,
          split_append_separator, othersSplit, split_eq_singleton separator first firstFree]
        rfl

/-- A text without the separator that ends another one is its last piece. -/
theorem split_append_piece {separator : Char} (left : List Char) {piece : List Char}
    (free : separator ∉ piece) :
    split separator (left ++ separator :: piece) = split separator left ++ [piece] := by
  rw [split_append_separator, split_eq_singleton separator piece free]

/-- Texts that are split alike are the same. -/
theorem split_injective (separator : Char) {left right : List Char}
    (same : split separator left = split separator right) : left = right := by
  rw [← intercalate_split separator left, same, intercalate_split]

end ComponentInstall.Text
