import ComponentInstall.Domain.Label
import ComponentInstall.Text.Direction
import ComponentInstall.Text.Split

/-!
# Names

A name is read without regard to variants of characters, label by label, and written in ASCII.

A name with a label that is written from right to left must be drawn so that its labels stay apart.
Then every label begins with a letter, ends with a letter or a digit of its own direction, marks
apart, and holds no letter of the other direction. European and Arabic digits must not meet in a
label from right to left, and Arabic ones not be in the other labels at all.
-/

namespace ComponentInstall.Domain

open ComponentInstall.Text

/-- A direction that a label from right to left brings along. -/
def isBackward (d : Direction) : Bool := d = .leftward || d = .arabicDigit

/-- Whether directions fit a label from left to right. The first one is that of its first letter. -/
def fitsForward (last : Direction) (inner : List Direction) : Bool :=
  (last = .rightward || last = .europeanDigit) && !inner.any isBackward

/-- Whether directions fit a label from right to left. -/
def fitsBackward (last : Direction) (inner : List Direction) : Bool :=
  (isBackward last || last = .europeanDigit)
    && !inner.contains .rightward
    && !((last :: inner).contains .europeanDigit && (last :: inner).contains .arabicDigit)

/-- Whether a label can be drawn beside one from right to left. -/
def fitsBidirectional (label : List Char) : Bool :=
  match label.map direction with
  | [] => true
  | first :: rest =>
    (first = .rightward || first = .leftward)
      && match rest.reverse.dropWhile (· = .mark) with
        | [] => true
        | last :: inner =>
          if first = .rightward then fitsForward last inner else fitsBackward last inner

/-- The labels of a name, each with the characters that it is about. -/
def labels? (name : List Char) : Option (List (List Char)) :=
  (name.mapM standsFor).bind fun texts =>
    ((split '.' (composed texts.flatten)).mapM Label.ofChars?).filter fun labels =>
      !labels.any (·.any fun c => isBackward (direction c)) || labels.all fitsBidirectional

/-- A name as it is written in ASCII, unless it is refused. -/
def ascii? (name : List Char) : Option (List Char) :=
  (labels? name).map fun labels => List.intercalate ['.'] (labels.map Label.written)

end ComponentInstall.Domain
