/-!
# Blank characters and trimming

A component name that shows nothing is no name, and a marker file may end in a line break. Both
rules speak of the Unicode property `White_Space`, which is wider than ASCII: the no-break blank,
the ideographic blank and the two line separators belong to it, the zero-width blank does not.

`trim` drops blanks at both ends and keeps those inside. Trimming twice is trimming once, and a
text without blanks at its ends is its own trimmed form.
-/

namespace ComponentInstall.Text

/-- Ranges of the property `White_Space`, ends included, rising. -/
def blankRanges : List (Nat × Nat) :=
  [(0x9, 0xd), (0x20, 0x20), (0x85, 0x85), (0xa0, 0xa0), (0x1680, 0x1680), (0x2000, 0x200a),
    (0x2028, 0x2029), (0x202f, 0x202f), (0x205f, 0x205f), (0x3000, 0x3000)]

/-- A character of the property `White_Space`. -/
def isBlank (c : Char) : Bool :=
  blankRanges.any fun (first, last) => decide (first ≤ c.toNat) && decide (c.toNat ≤ last)

/-- Drops blanks from the end of a list of characters. -/
def trimEnd (cs : List Char) : List Char := (cs.reverse.dropWhile isBlank).reverse

/-- Drops blanks from both ends of a list of characters. -/
def trimChars (cs : List Char) : List Char := trimEnd (cs.dropWhile isBlank)

/-- A text without the blanks at its ends. -/
def trim (text : String) : String := String.ofList (trimChars text.toList)

/-- A text that shows nothing: every character is blank, as in the empty text. -/
def allBlank (text : String) : Bool := text.toList.all isBlank

@[simp] theorem toList_trim (text : String) : (trim text).toList = trimChars text.toList := by
  simp [trim]

end ComponentInstall.Text
