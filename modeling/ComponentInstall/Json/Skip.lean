import ComponentInstall.Json.Numeral
import ComponentInstall.Json.Text

/-!
# Skipping a value

A member that nobody asked for may hold any JSON at all. It is skipped with the list of the
enclosing lists and objects as the only memory, so no depth of nesting is too much, and it is
checked no further than is needed to find its end.

Skipping takes at least one character in every two steps, which bounds its fuel.
-/

namespace ComponentInstall.Json

/-- What encloses the part that is being skipped. -/
inductive Frame
  | list
  | object
deriving DecidableEq, Repr

namespace Reader

/-- Skips the key of a member and the colon behind it. -/
def skipKey : Reader Unit := do
  match ← peekPastGaps with
  | some '\x22' => do
    take
    skipTextBody
    match ← peekPastGaps with
    | some ':' => take
    | some _ => failNext .colonExpected
    | none => failNext .objectUnfinished
  | some _ => failNext .keyNotText
  | none => failNext .objectUnfinished

/-- The fault of a frame whose text ends. -/
def unfinished : Frame → Cause
  | .list => .listUnfinished
  | .object => .objectUnfinished

/-- The fault of a frame that holds a value followed by neither a comma nor its end. -/
def unseparated : Frame → Cause
  | .list => .commaOrBracketExpected
  | .object => .commaOrBraceExpected

/-- The character that ends a frame. -/
def closing : Frame → Char
  | .list => ']'
  | .object => '\x7d'

mutual

/-- Skips a value and what is left of the frames around it. -/
def skipValue : Nat → List Frame → Reader Unit
  | 0, _ => pure ()
  | fuel + 1, frames => do
    match ← peekPastGaps with
    | none => failNext .valueUnfinished
    | some 'n' => do
      take
      literal ['u', 'l', 'l']
      skipBehind fuel frames
    | some 't' => do
      take
      literal ['r', 'u', 'e']
      skipBehind fuel frames
    | some 'f' => do
      take
      literal ['a', 'l', 's', 'e']
      skipBehind fuel frames
    | some '-' => do
      take
      skipNumberBody
      skipBehind fuel frames
    | some '\x22' => do
      take
      skipTextBody
      skipBehind fuel frames
    | some '[' => do
      take
      skipInside fuel .list frames
    | some '\x7b' => do
      take
      skipInside fuel .object frames
    | some c =>
      if Text.isDigit c then do
        skipNumberBody
        skipBehind fuel frames
      else failNext .valueExpected

/-- Skips what stands behind the opening of a frame. -/
def skipInside : Nat → Frame → List Frame → Reader Unit
  | 0, _, _ => pure ()
  | fuel + 1, frame, frames => do
    match ← peekPastGaps with
    | none => failNext (unfinished frame)
    | some c =>
      if c = closing frame then do
        take
        skipBehind fuel frames
      else match frame with
        | .list => skipValue fuel (frame :: frames)
        | .object => do
          skipKey
          skipValue fuel (frame :: frames)

/-- Skips what stands behind a value. -/
def skipBehind : Nat → List Frame → Reader Unit
  | 0, _ => pure ()
  | _ + 1, [] => pure ()
  | fuel + 1, frame :: frames => do
    match ← peekPastGaps with
    | none => failNext (unfinished frame)
    | some ',' => do
      take
      match frame with
      | .list => skipValue fuel (frame :: frames)
      | .object => do
        skipKey
        skipValue fuel (frame :: frames)
    | some c =>
      if c = closing frame then do
        take
        skipBehind fuel frames
      else failNext (unseparated frame)

end

/-- Skips one value. -/
def skip : Reader Unit := do
  let bound ← fuel
  skipValue (2 * bound) []

end Reader

end ComponentInstall.Json
