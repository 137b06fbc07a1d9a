import ComponentInstall.Json.Cursor

/-!
# Numbers inside a document

A number is a whole part without needless zeros, then perhaps a fraction, then perhaps an exponent.
Without the last two it is a whole number, as long as it fits a machine word; with a minus sign,
as long as it is not zero and not below `-2 ^ 63`. Every other number is a double.

Digits are taken into the significand as long as it stays a machine word. Later digits of the whole
part count as zeros, later digits of the fraction are dropped, and a double comes from the
significand and the power of ten that remain.

A number that nobody asked for is skipped: its form is checked, its size is not.
-/

namespace ComponentInstall.Json

open ComponentInstall.Text ComponentInstall.Decimal

/-- The last exponent that is still read digit by digit. -/
def exponentBound : Nat := Nat.pow 2 31 - 1

/-- The digits that a significand can take in: the significand they make, their number and what
follows them. -/
def absorb (significand : Nat) : List Char → Nat × Nat × List Char
  | [] => (significand, 0, [])
  | c :: rest =>
    if isDigit c ∧ significand * 10 + digitValue c < wordBound then
      let (total, count, behind) := absorb (significand * 10 + digitValue c) rest
      (total, count + 1, behind)
    else (significand, 0, c :: rest)

/-- The digits of an exponent up to its bound: their value unless they pass it, their number and
what follows them. -/
def exponentDigits (sum : Nat) : List Char → Option Nat × Nat × List Char
  | [] => (some sum, 0, [])
  | c :: rest =>
    if isDigit c then
      if sum * 10 + digitValue c ≤ exponentBound then
        let (total, count, behind) := exponentDigits (sum * 10 + digitValue c) rest
        (total, count + 1, behind)
      else (none, 1, rest)
    else (some sum, 0, c :: rest)

/-- A double from its parts, at the cursor behind them. -/
def finishReal (negative : Bool) (significand : Nat) (exponent : Int) : Reader Number := fun cursor =>
  match Double.ofDecimal negative significand exponent with
  | some x => (.ok (.real x), cursor)
  | none => Reader.failHere .numberTooLarge cursor

/-- The cursor behind a number of ASCII characters. -/
def Cursor.skip (cursor : Cursor) (count : Nat) (rest : List Char) : Cursor :=
  ⟨rest, ⟨cursor.position.line, cursor.position.column + count⟩⟩

/-- Reads all digits that follow. -/
def dropDigits : Reader Unit := fun cursor =>
  (.ok (), cursor.skip (cursor.rest.takeWhile isDigit).length (cursor.rest.dropWhile isDigit))

/-- Reads the sign of an exponent: true for a plus or none. -/
def exponentSign : Reader Bool := do
  match ← Reader.peek with
  | some '+' => do
    Reader.take
    return true
  | some '-' => do
    Reader.take
    return false
  | _ => return true

/-- Reads the digits of an exponent and finishes the number. -/
def finishExponent (negative : Bool) (significand : Nat) (place : Int) (rising : Bool) :
    Reader Number := fun cursor =>
  let (total, count, rest) := exponentDigits 0 cursor.rest
  let reached := cursor.skip count rest
  match total with
  | some exponent =>
    finishReal negative significand (if rising then place + exponent else place - exponent) reached
  | none =>
    if significand ≠ 0 ∧ rising then Reader.failHere .numberTooLarge reached
    else (.ok (.real (Double.zero negative)), (dropDigits reached).2)

/-- Reads an exponent from its letter on and finishes the number. -/
def exponentPart (negative : Bool) (significand : Nat) (place : Int) : Reader Number := do
  Reader.take
  let rising ← exponentSign
  match ← Reader.peek with
  | none => Reader.failHere .valueUnfinished
  | some c =>
    if isDigit c then finishExponent negative significand place rising
    else Reader.failNext .numberInvalid

/-- Finishes a number whose whole part and fraction have been read. -/
def afterFraction (negative : Bool) (significand : Nat) (place : Int) : Reader Number := do
  match ← Reader.peek with
  | some 'e' | some 'E' => exponentPart negative significand place
  | _ => finishReal negative significand place

/-- Reads the digits of a fraction and finishes the number. -/
def fractionDigits (negative : Bool) (significand : Nat) (place : Int) : Reader Number :=
    fun cursor =>
  let (total, count, rest) := absorb significand cursor.rest
  let reached := cursor.skip count rest
  if (rest.head?.map isDigit).getD false then
    afterFraction negative total (place - count) (dropDigits reached).2
  else if count = 0 then
    match rest with
    | [] => Reader.failHere .valueUnfinished reached
    | _ => Reader.failNext .numberInvalid reached
  else afterFraction negative total (place - count) reached

/-- Reads a fraction from its point on and finishes the number. -/
def fractionPart (negative : Bool) (significand : Nat) (place : Int) : Reader Number := do
  Reader.take
  fractionDigits negative significand place

/-- A whole number as the most exact value it has. -/
def wholeNumber (negative : Bool) (significand : Nat) : Reader Number :=
  if negative then
    if significand = 0 ∨ Nat.pow 2 63 < significand then finishReal true significand 0
    else pure (.negative significand)
  else pure (.natural significand)

/-- Finishes a number whose whole part has been read; `dropped` of its digits did not fit. -/
def afterWhole (negative : Bool) (significand dropped : Nat) : Reader Number := do
  match ← Reader.peek with
  | some '.' => fractionPart negative significand dropped
  | some 'e' | some 'E' => exponentPart negative significand dropped
  | _ =>
    if dropped = 0 then wholeNumber negative significand
    else finishReal negative significand dropped

/-- Reads a number from behind its sign. -/
def numberBody (negative : Bool) : Reader Number := fun cursor =>
  match cursor.rest with
  | [] => Reader.failHere .valueUnfinished cursor
  | '0' :: rest =>
    let reached := cursor.skip 1 rest
    if (rest.head?.map isDigit).getD false then Reader.failNext .numberInvalid reached
    else afterWhole negative 0 0 reached
  | c :: _ =>
    if isDigit c then
      let (significand, count, rest) := absorb 0 cursor.rest
      let reached := cursor.skip count rest
      let dropped := rest.takeWhile isDigit
      afterWhole negative significand dropped.length
        (reached.skip dropped.length (rest.dropWhile isDigit))
    else Reader.failNext .numberInvalid cursor

/-- Skips an exponent from its letter on. -/
def skipExponent : Reader Unit := do
  Reader.take
  let _ ← exponentSign
  match ← Reader.peek with
  | some c => if isDigit c then dropDigits else Reader.failNext .numberInvalid
  | none => Reader.failNext .numberInvalid

/-- Skips what follows the digits of a number. -/
def skipAfterDigits : Reader Unit := do
  match ← Reader.peek with
  | some 'e' | some 'E' => skipExponent
  | _ => pure ()

/-- Skips a fraction from its point on. -/
def skipFraction : Reader Unit := do
  Reader.take
  match ← Reader.peek with
  | some c =>
    if isDigit c then do
      dropDigits
      skipAfterDigits
    else Reader.failNext .numberInvalid
  | none => Reader.failNext .numberInvalid

/-- Skips a number from behind its sign. -/
def skipNumberBody : Reader Unit := do
  match ← Reader.peek with
  | some '0' => do
    Reader.take
    match ← Reader.peek with
    | some c =>
      if isDigit c then Reader.failNext .numberInvalid
      else if c = '.' then skipFraction
      else skipAfterDigits
    | none => pure ()
  | some c =>
    if isDigit c then do
      dropDigits
      match ← Reader.peek with
      | some '.' => skipFraction
      | _ => skipAfterDigits
    else Reader.failNext .numberInvalid
  | none => Reader.failNext .numberInvalid

end ComponentInstall.Json
