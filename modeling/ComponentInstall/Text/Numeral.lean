/-!
# Decimal numerals

A numeral is a run of ASCII digits; any number of leading zeros is allowed, and a sign is not part
of it. `value` reads one from the left, and `digits` writes a number without leading zeros.

Numbers of the domain are machine words of 64 bits, so `word` also refuses a value that is too
large. The bound is on the value: leading zeros never push a numeral over it.
-/

namespace ComponentInstall.Text

/-- An ASCII digit. Digits of other scripts do not count. -/
def isDigit (c : Char) : Bool := decide ('0' ≤ c) && decide (c ≤ '9')

/-- The value of one digit. -/
def digitValue (c : Char) : Nat := c.toNat - '0'.toNat

/-- The value of a run of digits, the first of which weighs most. -/
def value (digits : List Char) : Nat := digits.foldl (fun sum c => 10 * sum + digitValue c) 0

/-- The first number that does not fit a machine word. -/
def wordBound : Nat := Nat.pow 2 64

/-- Reads a numeral that is not empty and fits a machine word. -/
def word? (cs : List Char) : Option Nat :=
  if cs ≠ [] ∧ cs.all isDigit ∧ value cs < wordBound then some (value cs) else none

/-- A number as a numeral without leading zeros. -/
def decimal (n : Nat) : String := String.ofList (Nat.toDigits 10 n)

end ComponentInstall.Text
