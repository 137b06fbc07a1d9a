/-!
# Splitting at a separator

A path is split at its slashes and a version at its dots. Every separator splits, so there is one
piece more than there are separators, and a piece may be empty. Putting the separator back between
the pieces gives the text again.
-/

namespace ComponentInstall.Text

/-- The pieces of a text between the occurrences of a separator. -/
def split (separator : Char) : List Char → List (List Char)
  | [] => [[]]
  | c :: rest =>
    if c = separator then [] :: split separator rest
    else match split separator rest with
      | [] => [[c]]
      | piece :: pieces => (c :: piece) :: pieces

theorem split_ne_nil (separator : Char) (cs : List Char) : split separator cs ≠ [] := by
  induction cs with
  | nil => simp [split]
  | cons c rest _ =>
    rw [split]
    split
    · simp
    · split <;> simp

/-- A separator between two texts splits them apart and leaves their own pieces alone. -/
theorem split_append_separator (separator : Char) (left right : List Char) :
    split separator (left ++ separator :: right)
      = split separator left ++ split separator right := by
  induction left with
  | nil => simp [split]
  | cons c rest inductionHypothesis =>
    by_cases isSeparator : c = separator
    · simp [split, isSeparator, inductionHypothesis]
    · cases pieces : split separator rest with
      | nil => exact absurd pieces (split_ne_nil separator rest)
      | cons piece others => simp [split, isSeparator, inductionHypothesis, pieces]

/-- A text without the separator is one piece. -/
theorem split_eq_singleton (separator : Char) (cs : List Char) (absent : separator ∉ cs) :
    split separator cs = [cs] := by
  induction cs with
  | nil => rfl
  | cons c rest inductionHypothesis =>
    have differs : c ≠ separator := fun same => absent (by simp [same])
    have later : separator ∉ rest := fun inside => absent (by simp [inside])
    simp [split, differs, inductionHypothesis later]

end ComponentInstall.Text
