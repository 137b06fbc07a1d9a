import ComponentInstall.Text.Split
import ComponentInstall.Url.Encoding

/-!
# Paths of addresses

A path is a list of names with slashes between them. A single dot leads nowhere and two dots lead to
the folder around, both also in percent encoding. There is no way out of a drive: two dots behind a
name such as `c:` lead nowhere either.

The path of a file begins with a name, so all slashes before the first one fall away. A drive that
comes first is kept with a colon behind its letter.
-/

namespace ComponentInstall.Url

open ComponentInstall.Text

/-- A letter with a colon or a bar behind it. -/
def isDrive : List Char → Bool
  | [letter, mark] => letter.isAlpha && (mark = ':' || mark = '|')
  | _ => false

/-- A drive, with or without a backslash and more behind it. -/
def holdsDrive (name : List Char) : Bool := isDrive (name.takeWhile (· ≠ '\\'))

/-- A name that stands for the folder itself. -/
def isHere (name : List Char) : Bool := name.map Char.toLower ∈ [".".toList, "%2e".toList]

/-- A name that stands for the folder around. -/
def isAround (name : List Char) : Bool :=
  name.map Char.toLower ∈ ["..".toList, "%2e.".toList, ".%2e".toList, "%2e%2e".toList]

/-- The way into some folders: their names, the last one first, and whether it led through a drive
that belongs to this machine. -/
structure Way where
  names : List (List Char)
  onDrive : Bool

namespace Way

/-- The way that ends before the first name. -/
def start : Way := ⟨[], false⟩

/-- The way to the folder around, which a drive does not have. -/
def leave (way : Way) : Way :=
  match way.names with
  | name :: around => if holdsDrive name then way else { way with names := around }
  | [] => way

/-- The way into a folder or to a file. -/
def enter (inFile : Bool) (way : Way) (name : List Char) : Way :=
  if inFile ∧ way.names = [] ∧ isDrive name then ⟨[name.take 1 ++ [':']], true⟩
  else { way with names := name :: way.names }

/-- The way along some names, where dots are followed. A way that ends in dots ends in a folder, so
its last name is empty. -/
def along (inFile : Bool) : Way → List (List Char) → Way
  | way, [] => way
  | way, name :: rest =>
    let next :=
      if isAround name then way.leave
      else if isHere name then way
      else way.enter inFile name
    if rest = [] ∧ (isAround name ∨ isHere name) then next.enter inFile []
    else along inFile next rest

/-- The path of a way. -/
def path (inFile : Bool) (way : Way) : List Char :=
  let names := way.names.reverse
  '/' :: List.intercalate ['/'] (if inFile then names.dropWhile (· = []) else names)

end Way

/-- A character that separates the names of a path. -/
def isSeparator (special : Bool) (c : Char) : Bool := c = '/' || special && c = '\\'

/-- The names of a path, encoded. -/
def namesOf (special : Bool) (cs : List Char) : List (List Char) :=
  (split '/' (cs.map fun c => if isSeparator special c then '/' else c)).map (encode pathSet)

/-- A path from what follows its first separator. -/
def pathOf (special : Bool) (cs : List Char) : List Char :=
  (Way.start.along false (namesOf special cs)).path false

/-- The way of a file from what follows its first separator. -/
def wayOfFile (cs : List Char) : Way := Way.start.along true (namesOf true cs)

end ComponentInstall.Url
