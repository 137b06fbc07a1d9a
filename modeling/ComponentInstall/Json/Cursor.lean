import ComponentInstall.Json.Fault

/-!
# Reading a text from the left

A cursor is what is left of a text and the position reached in it. A reader takes a cursor and gives
back its result together with the cursor at which it stopped, also when it fails: what encloses a
failing part may still look for its own end, and a fault without a position takes the one that was
reached by then.

Positions count bytes, so a character moves the column by the length of its encoding, and a line
break moves to column zero of the next line.
-/

namespace ComponentInstall.Json

/-- The position behind a character. -/
def Position.after (position : Position) (c : Char) : Position :=
  if c = '\n' then ⟨position.line + 1, 0⟩ else ⟨position.line, position.column + c.utf8Size⟩

/-- The position behind some characters. -/
def Position.afterAll (position : Position) (cs : List Char) : Position :=
  cs.foldl Position.after position

/-- The position behind the first byte of a text, or the position itself where the text ends. -/
def Position.afterByte (position : Position) : List Char → Position
  | [] => position
  | c :: _ => if c = '\n' then ⟨position.line + 1, 0⟩ else ⟨position.line, position.column + 1⟩

/-- The position behind a number of bytes of a text, which may end inside a character. -/
def Position.afterBytes (position : Position) : Nat → List Char → Position
  | _, [] => position
  | count, c :: rest =>
    if count = 0 then position
    else if c.utf8Size ≤ count then (position.after c).afterBytes (count - c.utf8Size) rest
    else ⟨position.line, position.column + count⟩

/-- The number of bytes of a text. -/
def byteLength (cs : List Char) : Nat := cs.foldr (fun c length => c.utf8Size + length) 0

/-- What is left of a text, and the position reached. -/
structure Cursor where
  rest : List Char
  position : Position
deriving DecidableEq, Repr

/-- The cursor at the beginning of a text. -/
def Cursor.start (text : String) : Cursor := ⟨text.toList, ⟨1, 0⟩⟩

/-- A reader of some part of a text. -/
def Reader (α : Type) : Type := Cursor → Except Fault α × Cursor

namespace Reader

variable {α β : Type}

/-- Reads nothing. -/
def succeed (a : α) : Reader α := fun cursor => (.ok a, cursor)

/-- Reads one part and then another that may depend on it. -/
def andThen (first : Reader α) (second : α → Reader β) : Reader β := fun cursor =>
  match first cursor with
  | (.ok a, reached) => second a reached
  | (.error fault, reached) => (.error fault, reached)

instance : Monad Reader where
  pure := succeed
  bind := andThen

theorem pure_apply (a : α) (cursor : Cursor) : (pure a : Reader α) cursor = (.ok a, cursor) := rfl

theorem bind_apply (first : Reader α) (second : α → Reader β) (cursor : Cursor) :
    (first >>= second) cursor =
      match first cursor with
      | (.ok a, reached) => second a reached
      | (.error fault, reached) => (.error fault, reached) := rfl

/-- Fails at the position reached. -/
def failHere (cause : Cause) : Reader α := fun cursor =>
  (.error ⟨cause, some cursor.position⟩, cursor)

/-- Fails at the byte that comes next. -/
def failNext (cause : Cause) : Reader α := fun cursor =>
  (.error ⟨cause, some (cursor.position.afterByte cursor.rest)⟩, cursor)

/-- Fails without a position. -/
def fail (cause : Cause) : Reader α := fun cursor => (.error ⟨cause, none⟩, cursor)

/-- Gives a fault without a position the position reached. -/
def placed (reader : Reader α) : Reader α := fun cursor =>
  match reader cursor with
  | (.error ⟨cause, none⟩, reached) => (.error ⟨cause, some reached.position⟩, reached)
  | result => result

/-- Reads a body and then its end. The end is looked for even if the body fails; of two faults that
of the body counts. -/
def closedBy (body : Reader α) (close : Reader Unit) : Reader α := fun cursor =>
  let (outcome, inside) := body cursor
  let (closing, outside) := close inside
  match outcome, closing with
  | .ok a, .ok () => (.ok a, outside)
  | .error fault, _ => (.error fault, outside)
  | .ok _, .error fault => (.error fault, outside)

/-- The character that comes next. -/
def peek : Reader (Option Char) := fun cursor => (.ok cursor.rest.head?, cursor)

/-- Reads one character. -/
def take : Reader Unit := fun cursor =>
  match cursor.rest with
  | [] => (.ok (), cursor)
  | c :: rest => (.ok (), ⟨rest, cursor.position.after c⟩)

/-- A character that may stand between the parts of a document. -/
def isGap (c : Char) : Bool := c = ' ' || c = '\n' || c = '\t' || c = '\r'

/-- Reads all gaps and shows the character behind them. -/
def peekPastGaps : Reader (Option Char) := fun cursor =>
  let rest := cursor.rest.dropWhile isGap
  (.ok rest.head?, ⟨rest, cursor.position.afterAll (cursor.rest.takeWhile isGap)⟩)

/-- Reads the given characters. -/
def literal : List Char → Reader Unit
  | [] => pure ()
  | c :: rest => do
    match ← peek with
    | none => failHere .valueUnfinished
    | some next =>
      if next = c then
        take
        literal rest
      else failNext .literalExpected

/-- The number of characters left, which bounds what can still be read. -/
def fuel : Reader Nat := fun cursor => (.ok (cursor.rest.length + 1), cursor)

end Reader

end ComponentInstall.Json
