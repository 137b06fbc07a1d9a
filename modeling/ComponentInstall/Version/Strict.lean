import ComponentInstall.Text.Numeral
import ComponentInstall.Text.Split

/-!
# Strict versions

A strict version is three numerals with a dot between each two, and nothing else: no label, no
sign, no fourth part, no blank. Every part fits a machine word. Leading zeros are allowed, so
several texts can denote one version.

Versions are ordered part by part as numbers, the first part weighing most.
-/

namespace ComponentInstall.Version

open ComponentInstall.Text

/-- What a strict version denotes. -/
structure Triple where
  major : Nat
  minor : Nat
  patch : Nat
deriving DecidableEq, Repr

/-- The order of versions: the first part that differs decides. -/
def Triple.ble (left right : Triple) : Bool :=
  if left.major ≠ right.major then decide (left.major < right.major)
  else if left.minor ≠ right.minor then decide (left.minor < right.minor)
  else decide (left.patch ≤ right.patch)

instance : LE Triple := ⟨fun left right => left.ble right = true⟩

instance (left right : Triple) : Decidable (left ≤ right) :=
  inferInstanceAs (Decidable (left.ble right = true))

theorem Triple.le_iff (left right : Triple) :
    left ≤ right ↔
      left.major < right.major ∨
        left.major = right.major ∧
          (left.minor < right.minor ∨ left.minor = right.minor ∧ left.patch ≤ right.patch) := by
  change left.ble right = true ↔ _
  unfold Triple.ble
  split
  · simp only [decide_eq_true_eq]
    omega
  · split <;> simp only [decide_eq_true_eq] <;> omega

/-- The version that some characters denote, if they are a strict version. -/
def parse (cs : List Char) : Option Triple :=
  match split '.' cs with
  | [major, minor, patch] => do return ⟨← word? major, ← word? minor, ← word? patch⟩
  | _ => none

/-- The version that a text denotes, if it is a strict version. -/
def ofText (text : String) : Option Triple := parse text.toList

end ComponentInstall.Version
