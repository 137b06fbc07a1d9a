import ComponentInstall.Text.Blank
import Mathlib.Data.List.DropRight

/-!
# Texts that are their own trimmed form

A text is its own trimmed form if neither its first nor its last character is blank, so in particular
if it has no blanks at all. Every trimmed text is such a text, and trimming twice is trimming once.
-/

namespace ComponentInstall.Text

theorem trimChars_eq (cs : List Char) : trimChars cs = (cs.dropWhile isBlank).rdropWhile isBlank := rfl

/-- Trimming twice is trimming once. What is left of a text that begins with no blank after its end was
trimmed begins with no blank either. -/
theorem trimChars_trimChars (cs : List Char) : trimChars (trimChars cs) = trimChars cs := by
  have shown : (trimChars cs).dropWhile isBlank = trimChars cs := by
    rw [trimChars_eq]
    generalize opened : cs.dropWhile isBlank = rest
    have begins : rest.dropWhile isBlank = rest := by
      rw [← opened]
      exact List.dropWhile_idempotent isBlank cs
    rw [List.dropWhile_eq_self_iff] at begins ⊢
    intro nonempty
    have first : (rest.rdropWhile isBlank) <+: rest := List.rdropWhile_prefix isBlank rest
    have longer : 0 < rest.length := Nat.lt_of_lt_of_le nonempty first.length_le
    rw [first.getElem nonempty]
    exact begins longer
  rw [trimChars_eq (trimChars cs), shown, trimChars_eq]
  exact List.rdropWhile_idempotent isBlank _

theorem trim_trim (text : String) : trim (trim text) = trim text := by
  apply String.toList_injective
  rw [toList_trim, toList_trim]
  exact trimChars_trimChars text.toList

/-- A text without blanks is its own trimmed form. -/
theorem trim_of_solid {text : String} (solid : ∀ c ∈ text.toList, isBlank c = false) :
    trim text = text := by
  apply String.toList_injective
  rw [toList_trim, trimChars_eq]
  have opened : text.toList.dropWhile isBlank = text.toList := by
    rw [List.dropWhile_eq_self_iff]
    intro nonempty
    simp [solid _ (List.getElem_mem nonempty)]
  rw [opened, List.rdropWhile_eq_self_iff]
  intro nonempty
  simp [solid _ (List.getLast_mem nonempty)]

@[simp] theorem trim_empty : trim "" = "" := trim_of_solid (by simp)

end ComponentInstall.Text
