import ComponentInstall.Domain.Punycode
import ComponentInstall.Domain.Repertoire
import ComponentInstall.Text.Composition
import ComponentInstall.Text.Joining

/-!
# Labels of names

A name consists of labels with full stops between them. A label of ASCII is kept as it is; one with
other characters has a written form, which is `xn--` and its Punycode. `Label.ofChars?` reads either
form and gives the characters that the label is about, and `Label.written` writes them.

A label is refused if it holds an ASCII character that structures an address, if it begins with a
mark, if a joiner in it joins nothing, or if it is too long for its Punycode to be computed in
reasonable time. A written form is refused too if it could have been read from another label: its
characters must stand for themselves and be composed.
-/

namespace ComponentInstall.Domain

open ComponentInstall.Text

/-- An ASCII character that no name holds: a control, the blank, or one that structures an address. -/
def isDenied (c : Char) : Bool :=
  decide (c.toNat ≤ 0x20)
    || c ∈ ['\x7f', '%', '#', '/', ':', '<', '>', '?', '@', '[', '\\', ']', '^', '|']

namespace Label

/-- What the written form of a label with other characters than ASCII begins with. -/
def ace : List Char := ['x', 'n', '-', '-']

/-- The longest label that is written in Punycode. -/
def lengthLimit : Nat := 1000

/-- The longest Punycode that is read. -/
def writtenLimit : Nat := 2000

/-- The joiner that keeps two letters from being drawn as one, but lets them join. -/
def nonJoiner : Char := Char.ofNat 0x200c

/-- The joiner that makes two letters join. -/
def joiner : Char := Char.ofNat 0x200d

/-- A mark that takes its vowel from the consonant before it. A joiner may always follow it. -/
def isVirama (c : Char) : Bool := combiningClass c == 9

/-- Whether the first of some characters that is not transparent has a property. -/
def reaches (has : Char → Bool) (cs : List Char) : Bool := (cs.dropWhile isSkipped).head?.any has
where
  /-- A transparent character without the property. -/
  isSkipped (c : Char) : Bool := isTransparent c && !has c

/-- Whether every joiner of a label joins something. The characters before the rest are kept with
the last one first. -/
def joins : List Char → List Char → Bool
  | _, [] => true
  | before, c :: rest =>
    (if c = nonJoiner ∨ c = joiner then
      before.head?.any isVirama
        || c = nonJoiner && !before.isEmpty && reaches joinsBehind before && reaches joinsBefore rest
    else true)
      && joins (c :: before) rest

/-- Whether the characters that a label is about may form one. -/
def isSound (label : List Char) : Bool :=
  !label.any isDenied && !label.head?.any isMark && joins [] label
    && (label.all Punycode.isAscii || decide (label.length ≤ lengthLimit))

/-- The characters behind a written form without its first characters. None of them may vary
another one or divide a name. -/
def ofPunycode? (cs : List Char) : Option (List Char) :=
  if cs = [] ∨ cs.getLast? = some '-' ∨ writtenLimit < cs.length ∨ !cs.all Punycode.isAscii then none
  else
    (Punycode.decode cs).filter fun label =>
      label.all (fun c => standsFor c == some [c] && c != '.') && composed label == label

/-- The characters that a label is about, of which those of the label vary no other ones. -/
def ofChars? (cs : List Char) : Option (List Char) :=
  (if ace.isPrefixOf cs then ofPunycode? (cs.drop ace.length) else some cs).filter isSound

/-- The written form of a label. -/
def written (label : List Char) : List Char :=
  if label.all Punycode.isAscii then label else ace ++ Punycode.encode label

end Label

end ComponentInstall.Domain
