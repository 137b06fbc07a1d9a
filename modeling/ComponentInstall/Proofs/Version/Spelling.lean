import ComponentInstall.Proofs.Disk.Way
import ComponentInstall.Proofs.Text.Trimming
import ComponentInstall.Proofs.Version.Grammar
import ComponentInstall.Proofs.Version.Selection

/-!
# How strict versions are spelled

The text of a strict version has nothing but digits between its dots, and some on both sides of each.
So it is a single name in a path, and the latest version of a list, if there is one, is too: what is
published cannot lead anywhere else. It has no blanks either, so it is its own trimmed form.
-/

namespace ComponentInstall

open Disk Text

namespace Text

theorem isBlank_of_isDigit {c : Char} (digit : isDigit c = true) : isBlank c = false := by
  simp only [isDigit, Bool.and_eq_true, decide_eq_true_eq, Char.le_def, UInt32.le_iff_toNat_le]
    at digit
  obtain ⟨low, high⟩ := digit
  have least : 48 ≤ c.toNat := low
  have greatest : c.toNat ≤ 57 := high
  simp only [isBlank, blankRanges, List.any_cons, List.any_nil, Bool.or_false, Bool.or_eq_false_iff,
    Bool.and_eq_false_iff, decide_eq_false_iff_not]
  omega

end Text

namespace Version

/-- A strict version is a single name in a path. -/
theorem normal_of_strict {text : String} {version : Triple} (strict : ofText text = some version) :
    NormalSegment text where
  named := by
    rintro rfl
    cases strict
  undivided := by
    intro slash
    exact absurd (dot_or_digit_of_strict strict slash) (by decide)
  notHere := by
    rintro rfl
    cases strict
  notUp := by
    rintro rfl
    cases strict

/-- A strict version has no blanks. -/
theorem solid_of_strict {text : String} {version : Triple} (strict : ofText text = some version)
    {c : Char} (inside : c ∈ text.toList) : isBlank c = false := by
  rcases dot_or_digit_of_strict strict inside with rfl | digit
  · decide
  · exact isBlank_of_isDigit digit

/-- The latest version, if there is one, is a single name in a path. -/
theorem normal_of_latest {wanted : Option String} {candidates : List String}
    (something : latest wanted candidates ≠ "") : NormalSegment (latest wanted candidates) := by
  obtain ⟨version, won⟩ := lastGreatest_latest something
  exact normal_of_strict won.qualifies.denotes

/-- The latest version is its own trimmed form, and so is the empty text where there is none. -/
theorem trim_latest (wanted : Option String) (candidates : List String) :
    trim (latest wanted candidates) = latest wanted candidates := by
  by_cases nothing : latest wanted candidates = ""
  · rw [nothing]
    exact trim_empty
  · obtain ⟨version, won⟩ := lastGreatest_latest nothing
    exact trim_of_solid fun c inside => solid_of_strict won.qualifies.denotes inside

end Version

end ComponentInstall
