import ComponentInstall.Proofs.Text.Splitting
import ComponentInstall.Version.Strict
import Mathlib.Data.List.Induction
import Mathlib.Data.Nat.Digits.Defs

/-!
# What strict versions look like

A strict version is three numerals with a dot between each two. This is a grammar of texts, said without
the reader, and the reader accepts exactly the texts of the grammar, with exactly the values of their
numerals.

Two facts carry the proof. Splitting at a separator undoes joining with it. And reading a numeral from
the left gives the sum of its digits weighed by powers of ten, so leading zeros change nothing, and the
bound of a machine word is one on that sum.
-/

namespace ComponentInstall

open Text

namespace Text

/-- A run of ASCII digits, of any length, whose decimal value fits a machine word. -/
structure Numeral (digits : List Char) (n : Nat) : Prop where
  nonempty : digits ≠ []
  digit : ∀ c ∈ digits, '0' ≤ c ∧ c ≤ '9'
  value : n = Nat.ofDigits 10 (digits.reverse.map fun c => c.toNat - '0'.toNat)
  fits : n ≤ 2 ^ 64 - 1

/-- Reading from the left weighs each digit by its place. -/
theorem value_eq_ofDigits (digits : List Char) :
    value digits = Nat.ofDigits 10 (digits.reverse.map digitValue) := by
  induction digits using List.reverseRecOn with
  | nil => rfl
  | append_singleton earlier digit inductionHypothesis =>
    have step : value (earlier ++ [digit]) = 10 * value earlier + digitValue digit := by
      simp [value, List.foldl_append]
    rw [step, inductionHypothesis, List.reverse_append, List.reverse_singleton,
      List.singleton_append, List.map_cons, Nat.ofDigits_cons]
    exact Nat.add_comm _ _

theorem isDigit_iff (c : Char) : isDigit c = true ↔ '0' ≤ c ∧ c ≤ '9' := by
  simp [isDigit]

/-- What is read as a machine word is exactly a numeral, with its value. -/
theorem word_eq_some_iff (digits : List Char) (n : Nat) :
    word? digits = some n ↔ Numeral digits n := by
  have valueOf := value_eq_ofDigits digits
  rw [word?]
  constructor
  · intro read
    split at read
    · rename_i numeral
      obtain ⟨nonempty, digit, fits⟩ := numeral
      cases read
      exact ⟨nonempty, fun c member => (isDigit_iff c).mp (List.all_eq_true.mp digit c member),
        valueOf, Nat.le_sub_one_of_lt fits⟩
    · cases read
  · rintro ⟨nonempty, digit, rfl, fits⟩
    have allDigits : digits.all isDigit = true :=
      List.all_eq_true.mpr fun c member => (isDigit_iff c).mpr (digit c member)
    have small : value digits < wordBound := by
      rw [valueOf]
      exact Nat.lt_of_le_sub_one (by decide) fits
    rw [if_pos ⟨nonempty, allDigits, small⟩, valueOf]
    rfl

/-- A numeral has no dot in it, nor any other character that is no digit. -/
theorem Numeral.not_mem {digits : List Char} {n : Nat} (numeral : Numeral digits n) {c : Char}
    (other : isDigit c = false) : c ∉ digits := by
  intro member
  rw [(isDigit_iff c).mpr (numeral.digit c member)] at other
  cases other

end Text

namespace Version

/-- A text is three numerals with a dot between each two, and nothing else. -/
def Spells (text : String) (version : Triple) : Prop :=
  ∃ major minor patch : List Char,
    text.toList = major ++ '.' :: (minor ++ '.' :: patch) ∧
      Numeral major version.major ∧ Numeral minor version.minor ∧ Numeral patch version.patch

theorem split_of_spelled {major minor patch : List Char} {version : Triple}
    (first : Numeral major version.major) (second : Numeral minor version.minor)
    (third : Numeral patch version.patch) :
    split '.' (major ++ '.' :: (minor ++ '.' :: patch)) = [major, minor, patch] := by
  rw [split_eq_iff]
  refine ⟨List.cons_ne_nil _ _, ?_, ?_⟩
  · simp only [List.mem_cons, List.not_mem_nil, or_false, forall_eq_or_imp, forall_eq]
    have noDigit : isDigit '.' = false := by decide
    exact ⟨first.not_mem noDigit, second.not_mem noDigit, third.not_mem noDigit⟩
  · simp [List.intercalate_cons_cons]

theorem ofText_eq_some_iff (text : String) (version : Triple) :
    ofText text = some version ↔ Spells text version := by
  rw [ofText, parse]
  constructor
  · intro strict
    split at strict
    · rename_i major minor patch pieces
      simp only [Option.pure_def, Option.bind_eq_bind, Option.bind_eq_some_iff] at strict
      obtain ⟨first, majorRead, second, minorRead, third, patchRead, made⟩ := strict
      cases made
      obtain ⟨-, -, joined⟩ := (split_eq_iff '.' text.toList _).mp pieces
      refine ⟨major, minor, patch, ?_, (word_eq_some_iff _ _).mp majorRead,
        (word_eq_some_iff _ _).mp minorRead, (word_eq_some_iff _ _).mp patchRead⟩
      rw [← joined]
      simp [List.intercalate_cons_cons]
    · cases strict
  · rintro ⟨major, minor, patch, spelled, first, second, third⟩
    rw [spelled, split_of_spelled first second third]
    simp only [(word_eq_some_iff _ _).mpr first, (word_eq_some_iff _ _).mpr second,
      (word_eq_some_iff _ _).mpr third]
    rfl

/-- Nothing but dots and digits is in a strict version. -/
theorem dot_or_digit_of_strict {text : String} {version : Triple}
    (strict : ofText text = some version) {c : Char} (inside : c ∈ text.toList) :
    c = '.' ∨ isDigit c = true := by
  obtain ⟨major, minor, patch, spelled, first, second, third⟩ :=
    (ofText_eq_some_iff text version).mp strict
  simp only [spelled, List.mem_append, List.mem_cons] at inside
  rcases inside with member | rfl | member | rfl | member
  · exact Or.inr ((isDigit_iff c).mpr (first.digit c member))
  · exact Or.inl rfl
  · exact Or.inr ((isDigit_iff c).mpr (second.digit c member))
  · exact Or.inl rfl
  · exact Or.inr ((isDigit_iff c).mpr (third.digit c member))

/-- Reading a version accepts exactly the texts that spell one, and gives exactly the version that they
spell; every other text is refused. -/
theorem ofText_exact (text : String) :
    (∀ version, ofText text = some version ↔ Spells text version) ∧
      (ofText text = none ↔ ∀ version, ¬ Spells text version) := by
  refine ⟨ofText_eq_some_iff text, ?_⟩
  rw [Option.eq_none_iff_forall_ne_some]
  exact forall_congr' fun version => not_congr (ofText_eq_some_iff text version)

/-- Leading zeros never push a numeral over the bound, which the largest machine word still meets. -/
example : ofText "0000000000000000000000.18446744073709551615.01" =
    some ⟨0, 18446744073709551615, 1⟩ := by decide +kernel

/-- A line break, a sign, digits of other scripts, and a value past the bound are all refused. -/
example : ["1.2.3\n", "+1.2.3", "1.2.\u0663", "1.2.18446744073709551616", "1..3", "1.2.3.4"].map ofText =
    List.replicate 6 none := by decide +kernel

end Version

end ComponentInstall
