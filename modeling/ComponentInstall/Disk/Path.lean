import ComponentInstall.Disk.Error
import ComponentInstall.Text.Quoted
import ComponentInstall.Text.Split

/-!
# Paths and the ways they describe

A path is a text, kept exactly as it was built. `join` puts a part behind a base: a part that begins
with a slash replaces the base, otherwise one slash separates the two unless the base is empty or
ends in one already.

To follow a path its text is split at the slashes. Empty pieces and single dots lead nowhere, two
dots lead one folder up, and any other piece leads into the entry of that name. The moves of a way
are kept with the last one first, because the way to the folder around an entry is then the rest of
the list. How a path ends matters too: behind a dot there is always a folder, and a closing slash
asks for one.
-/

namespace ComponentInstall.Disk

open ComponentInstall.Text

/-- A path as it was written or built. -/
structure Path where
  text : String
deriving DecidableEq, Repr

/-- One step of a way. -/
inductive Move
  | up
  | into (name : String)
deriving DecidableEq, Repr

/-- How a way ends: at a folder that the moves lead to, or at an entry of that folder. An entry is
closed if a slash follows its name. -/
inductive Ending
  | folder
  | entry (name : String) (closed : Bool)
deriving DecidableEq, Repr

/-- A way through a tree: the moves to a folder, last one first, and the ending. -/
structure Route where
  outer : List Move
  ending : Ending
deriving DecidableEq, Repr

namespace Path

/-- Puts a part behind a base. -/
def join (base part : Path) : Path :=
  if part.text.toList.head? = some '/' ∨ base.text = "" then part
  else if base.text.toList.getLast? = some '/' then ⟨base.text ++ part.text⟩
  else ⟨base.text ++ "/" ++ part.text⟩

/-- A path as messages show it. -/
def quoted (path : Path) : String := Text.quoted path.text

/-- The pieces of a path between its slashes. -/
def segments (path : Path) : List (List Char) := split '/' path.text.toList

/-- The move that a piece of a path asks for. -/
def moveOf (segment : List Char) : Option Move :=
  if segment = [] ∨ segment = ['.'] then none
  else if segment = ['.', '.'] then some .up
  else some (.into (String.ofList segment))

/-- The way of some pieces, the last one first. -/
def routeOf (reversed : List (List Char)) : Route :=
  match reversed.dropWhile (· = []) with
  | [] => ⟨[], .folder⟩
  | last :: earlier =>
    match moveOf last with
    | some (.into name) => ⟨earlier.filterMap moveOf, .entry name (reversed.head? = some [])⟩
    | _ => ⟨(last :: earlier).filterMap moveOf, .folder⟩

/-- The number of bytes from which on a path is too long to be followed. -/
def lengthBound : Nat := 4096

/-- The way that a path describes. An empty path describes none, and neither does one that is too
long or has a NUL in it. -/
def route (path : Path) : Except IoError Route :=
  if '\x00' ∈ path.text.toList then .error .nulInName
  else if path.text = "" then .error .missing
  else if lengthBound ≤ path.text.utf8ByteSize then .error .nameTooLong
  else .ok (routeOf path.segments.reverse)

end Path

end ComponentInstall.Disk
