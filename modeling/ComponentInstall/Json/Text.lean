import ComponentInstall.Json.Cursor

/-!
# Texts inside a document

A text stands between quotes; a backslash begins an escape. Eight escapes name one character, and
`\u` is followed by the four hexadecimal digits of a UTF-16 unit. A unit of the upper surrogates
must be followed by an escaped unit of the lower ones, and the pair is one character; a surrogate
in any other place is a fault.

A text that nobody asked for is skipped. Skipping checks the escapes but not what they denote, so
surrogates may stand alone there.

Both functions start behind the opening quote and recur on the rest of the text, so each stops at
the first closing quote that no backslash precedes.
-/

namespace ComponentInstall.Json

/-- The value of a hexadecimal digit of either case. -/
def hexDigit? (c : Char) : Option Nat :=
  if '0' ≤ c ∧ c ≤ '9' then some (c.toNat - '0'.toNat)
  else if 'a' ≤ c ∧ c ≤ 'f' then some (c.toNat - 'a'.toNat + 10)
  else if 'A' ≤ c ∧ c ≤ 'F' then some (c.toNat - 'A'.toNat + 10)
  else none

/-- The unit that four hexadecimal digits denote. -/
def unit? (a b c d : Char) : Option Nat := do
  let a ← hexDigit? a
  let b ← hexDigit? b
  let c ← hexDigit? c
  let d ← hexDigit? d
  return ((a * 16 + b) * 16 + c) * 16 + d

/-- A unit that must be followed by its other half. -/
def isUpperSurrogate (unit : Nat) : Bool := decide (0xd800 ≤ unit) && decide (unit < 0xdc00)

/-- A unit that must follow its other half. -/
def isLowerSurrogate (unit : Nat) : Bool := decide (0xdc00 ≤ unit) && decide (unit < 0xe000)

/-- The character of a pair of surrogates. -/
def pairedChar (upper lower : Nat) : Char :=
  Char.ofNat (0x10000 + (upper - 0xd800) * 0x400 + (lower - 0xdc00))

/-- The character that a letter behind a backslash names. -/
def namedEscape? : Char → Option Char
  | '\x22' => some '\x22'
  | '\\' => some '\\'
  | '/' => some '/'
  | 'b' => some '\x08'
  | 'f' => some '\x0c'
  | 'n' => some '\n'
  | 'r' => some '\r'
  | 't' => some '\t'
  | _ => none

/-- A character that must be escaped inside a text. -/
def isControl (c : Char) : Bool := decide (c.toNat < 0x20)

/-- The fault of a unit whose four digits are missing or wrong. It is noticed behind four bytes, or
at the end of a text that has fewer. -/
def unitFault (rest : List Char) (position : Position) : Fault :=
  if byteLength rest < 4 then ⟨.textUnfinished, some (position.afterAll rest)⟩
  else ⟨.escapeInvalid, some (position.afterBytes 4 rest)⟩

/-- Puts a character before the characters that the rest of a text holds. -/
def withFirst (c : Char) (result : Except Fault (List Char) × Cursor) :
    Except Fault (List Char) × Cursor :=
  (result.1.map (c :: ·), result.2)

/-- The characters of a text, read from behind its opening quote. -/
def textFrom : List Char → Position → Except Fault (List Char) × Cursor
  | [], position => (.error ⟨.textUnfinished, some position⟩, ⟨[], position⟩)
  | '\x22' :: rest, position => (.ok [], ⟨rest, position.after '\x22'⟩)
  | '\\' :: rest, position =>
    let escaped := position.after '\\'
    match rest with
    | [] => (.error ⟨.textUnfinished, some escaped⟩, ⟨[], escaped⟩)
    | 'u' :: a :: b :: c :: d :: rest =>
      let digits := escaped.after 'u'
      match unit? a b c d with
      | none => (.error (unitFault (a :: b :: c :: d :: rest) digits), ⟨rest, digits⟩)
      | some unit =>
        let behind := digits.afterAll [a, b, c, d]
        if isLowerSurrogate unit then (.error ⟨.surrogateAlone, some behind⟩, ⟨rest, behind⟩)
        else if isUpperSurrogate unit then
          match rest with
          | [] => (.error ⟨.textUnfinished, some behind⟩, ⟨[], behind⟩)
          | '\\' :: rest =>
            let again := behind.after '\\'
            match rest with
            | [] => (.error ⟨.textUnfinished, some again⟩, ⟨[], again⟩)
            | 'u' :: e :: f :: g :: h :: rest =>
              let digits := again.after 'u'
              match unit? e f g h with
              | none => (.error (unitFault (e :: f :: g :: h :: rest) digits), ⟨rest, digits⟩)
              | some lower =>
                let behind := digits.afterAll [e, f, g, h]
                if isLowerSurrogate lower then
                  withFirst (pairedChar unit lower) (textFrom rest behind)
                else (.error ⟨.surrogateAlone, some behind⟩, ⟨rest, behind⟩)
            | 'u' :: rest =>
              (.error (unitFault rest (again.after 'u')), ⟨rest, again.after 'u'⟩)
            | _ => (.error ⟨.surrogatePairBroken, some (again.afterByte rest)⟩, ⟨rest, again⟩)
          | _ => (.error ⟨.surrogatePairBroken, some (behind.afterByte rest)⟩, ⟨rest, behind⟩)
        else withFirst (Char.ofNat unit) (textFrom rest behind)
    | 'u' :: rest => (.error (unitFault rest (escaped.after 'u')), ⟨rest, escaped.after 'u'⟩)
    | letter :: rest =>
      match namedEscape? letter with
      | some c => withFirst c (textFrom rest (escaped.after letter))
      | none =>
        (.error ⟨.escapeInvalid, some (escaped.afterByte (letter :: rest))⟩, ⟨rest, escaped⟩)
  | c :: rest, position =>
    if isControl c then
      (.error ⟨.controlInText, some (position.afterByte (c :: rest))⟩, ⟨rest, position⟩)
    else withFirst c (textFrom rest (position.after c))

/-- Skips a text from behind its opening quote. -/
def skipTextFrom : List Char → Position → Except Fault Unit × Cursor
  | [], position => (.error ⟨.textUnfinished, some position⟩, ⟨[], position⟩)
  | '\x22' :: rest, position => (.ok (), ⟨rest, position.after '\x22'⟩)
  | '\\' :: rest, position =>
    let escaped := position.after '\\'
    match rest with
    | [] => (.error ⟨.textUnfinished, some escaped⟩, ⟨[], escaped⟩)
    | 'u' :: a :: b :: c :: d :: rest =>
      let digits := escaped.after 'u'
      match unit? a b c d with
      | none => (.error (unitFault (a :: b :: c :: d :: rest) digits), ⟨rest, digits⟩)
      | some _ => skipTextFrom rest (digits.afterAll [a, b, c, d])
    | 'u' :: rest => (.error (unitFault rest (escaped.after 'u')), ⟨rest, escaped.after 'u'⟩)
    | letter :: rest =>
      match namedEscape? letter with
      | some _ => skipTextFrom rest (escaped.after letter)
      | none =>
        (.error ⟨.escapeInvalid, some (escaped.afterByte (letter :: rest))⟩, ⟨rest, escaped⟩)
  | c :: rest, position =>
    if isControl c then (.error ⟨.controlInText, some position⟩, ⟨c :: rest, position⟩)
    else skipTextFrom rest (position.after c)

namespace Reader

/-- Reads a text from behind its opening quote. -/
def textBody : Reader String := fun cursor =>
  let (outcome, reached) := textFrom cursor.rest cursor.position
  (outcome.map String.ofList, reached)

/-- Skips a text from behind its opening quote. -/
def skipTextBody : Reader Unit := fun cursor => skipTextFrom cursor.rest cursor.position

end Reader

end ComponentInstall.Json
