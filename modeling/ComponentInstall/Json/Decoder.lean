import ComponentInstall.Json.Reader

/-!
# Decoders

A decoder knows one form of data in two guises: as a value that is already there and as text still
to be read. Both guises accept the same data. They differ in what a fault tells: one met in a text
has a position, and in a text the first fault from the left counts, while the members of a value
are visited in the order of their keys.

A record has named fields. It may be given as an object, whose unknown members are ignored, or as a
list that holds the fields in the order of their declaration. What has been gathered so far is a
draft; `Form.finish` makes the record from a draft, and decides what an absent field means.
-/

namespace ComponentInstall.Json

/-- A form of data, read from a value and from text. -/
structure Decoder (α : Type) where
  ofValue : Value → Except Cause α
  reader : Reader α

namespace Decoder

variable {α β σ : Type}

/-- Decodes a document. -/
def ofText (decoder : Decoder α) (text : String) : Except Fault α :=
  Reader.document decoder.reader text

/-- Reads past gaps, after which something must follow. -/
def present : Reader Char := do
  match ← Reader.peekPastGaps with
  | none => Reader.failNext .valueUnfinished
  | some c => return c

/-- A text; `expected` names it in faults. -/
def textNamed (expected : String) : Decoder String where
  ofValue
    | .text s => .ok s
    | other => .error (.wrongType other.found expected)
  reader := do
    if (← present) = '\x22' then do
      Reader.take
      Reader.textBody
    else Reader.mismatch expected

def text : Decoder String := textNamed "a string"

def path : Decoder String := textNamed "path string"

/-- A truth value. -/
def boolean : Decoder Bool where
  ofValue
    | .boolean b => .ok b
    | other => .error (.wrongType other.found "a boolean")
  reader := do
    match ← present with
    | 't' => do
      Reader.take
      Reader.literal ['r', 'u', 'e']
      return true
    | 'f' => do
      Reader.take
      Reader.literal ['a', 'l', 's', 'e']
      return false
    | _ => Reader.mismatch "a boolean"

/-- A number that is a machine word. -/
def wordOf : Number → Except Cause Nat
  | .natural n => .ok n
  | .negative n => .error (.wrongValue (.number (.negative n)) "u64")
  | .real x => .error (.wrongType (.number (.real x)) "u64")

/-- A whole number without a sign that fits a machine word. -/
def word : Decoder Nat where
  ofValue
    | .number n => wordOf n
    | other => .error (.wrongType other.found "u64")
  reader := Reader.placed do
    let accept (n : Number) : Reader Nat :=
      match wordOf n with
      | .ok n => pure n
      | .error cause => Reader.fail cause
    match ← present with
    | '-' => do
      Reader.take
      accept (← numberBody true)
    | c =>
      if Text.isDigit c then do accept (← numberBody false)
      else Reader.mismatch "u64"

/-- Data that may be absent, which `null` says. -/
def optional (decoder : Decoder α) : Decoder (Option α) where
  ofValue
    | .null => .ok none
    | other => (decoder.ofValue other).map some
  reader := do
    match ← Reader.peekPastGaps with
    | some 'n' => do
      Reader.take
      Reader.literal ['u', 'l', 'l']
      return none
    | _ => return some (← decoder.reader)

/-- Data that is changed after it has been read. -/
def map (f : α → β) (decoder : Decoder α) : Decoder β where
  ofValue value := (decoder.ofValue value).map f
  reader := do return f (← decoder.reader)

/-- Data that must also pass a check, which tells why it does not. -/
def refine (check : α → Except String β) (decoder : Decoder α) : Decoder β where
  ofValue value := do
    match check (← decoder.ofValue value) with
    | .ok b => .ok b
    | .error reason => .error (.refused reason)
  reader := do
    match check (← decoder.reader) with
    | .ok b => return b
    | .error reason => Reader.fail (.refused reason)

/-- A list of data of one form. -/
def list (decoder : Decoder α) : Decoder (List α) where
  ofValue
    | .array elements => elements.mapM decoder.ofValue
    | other => .error (.wrongType other.found "a sequence")
  reader := Reader.placed do
    if (← present) = '[' then do
      Reader.take
      Reader.closedBy (Reader.elements decoder.reader) Reader.endOfList
    else Reader.mismatch "a sequence"

end Decoder

/-- A field of a record that is gathered in a draft `σ`. -/
structure Field (σ : Type) where
  key : String
  filled : σ → Bool
  ofValue : Value → σ → Except Cause σ
  reader : σ → Reader σ

/-- A field from its decoder and its place in the draft. -/
def Decoder.field {α σ : Type} (decoder : Decoder α) (key : String) (get : σ → Option α)
    (set : σ → α → σ) : Field σ where
  key := key
  filled draft := (get draft).isSome
  ofValue value draft := (decoder.ofValue value).map (set draft)
  reader draft := do return set draft (← decoder.reader)

/-- The form of a record `α` that is gathered in a draft `σ`. When a field without a default is
absent, `finish` reports its place among the fields and its key. -/
structure Form (σ α : Type) where
  name : String
  fields : List (Field σ)
  blank : σ
  finish : σ → Except (Nat × String) α

namespace Form

variable {σ α : Type}

/-- How a record is named in faults. -/
def expected (form : Form σ α) : String := "struct " ++ form.name

/-- How a list of the fields of a record is named in faults. -/
def expectedLength (form : Form σ α) : String :=
  form.expected ++ " with " ++ Text.decimal form.fields.length
    ++ (if form.fields.length = 1 then " element" else " elements")

/-- The record of a draft whose members have all been seen. -/
def ofMembers (form : Form σ α) (draft : σ) : Except Cause α :=
  (form.finish draft).mapError fun (_, key) => .fieldMissing key

/-- The record of a draft whose elements have all been seen. -/
def ofElements (form : Form σ α) (draft : σ) : Except Cause α :=
  (form.finish draft).mapError fun (place, _) => .wrongLength place form.expectedLength

def field? (form : Form σ α) (key : String) : Option (Field σ) :=
  form.fields.find? (·.key == key)

/-- Adds a member to a draft. A known key must not come twice; an unknown one is ignored. -/
def addMember (form : Form σ α) (draft : σ) (key : String) (value : Value) : Except Cause σ :=
  match form.field? key with
  | none => .ok draft
  | some field => if field.filled draft then .error (.fieldRepeated key) else field.ofValue value draft

/-- Adds members to a draft, one after the other. -/
def addMembers (form : Form σ α) : σ → List (String × Value) → Except Cause σ
  | draft, [] => .ok draft
  | draft, (key, value) :: rest => do form.addMembers (← form.addMember draft key value) rest

/-- Adds elements to a draft, each to the field at its place; gives back the elements that are left
when there are no more fields. -/
def addElements : List (Field σ) → σ → List Value → Except Cause (σ × List Value)
  | field :: fields, draft, value :: rest => do
    addElements fields (← field.ofValue value draft) rest
  | _, draft, left => .ok (draft, left)

/-- The record that a value holds. -/
def ofValue (form : Form σ α) : Value → Except Cause α
  | .object members => do form.ofMembers (← form.addMembers form.blank members)
  | .array elements => do
    let (draft, left) ← addElements form.fields form.blank elements
    let result ← form.ofElements draft
    if left.isEmpty then return result
    else throw (.wrongLength elements.length "fewer elements in array")
  | other => .error (.wrongType other.found form.expected)

/-- The outcome of a step that leaves the text alone. -/
def settled {β : Type} : Except Cause β → Reader β
  | .ok b => pure b
  | .error cause => Reader.fail cause

/-- Reads a member behind its key. -/
def readMember (form : Form σ α) (key : String) (draft : σ) : Reader σ :=
  match form.field? key with
  | none => do
    Reader.colon
    Reader.skip
    return draft
  | some field =>
    if field.filled draft then Reader.fail (.fieldRepeated key)
    else do
      Reader.colon
      field.reader draft

/-- Reads elements, each into the field at its place. -/
def readElements : List (Field σ) → Bool → σ → Reader σ
  | [], _, draft => pure draft
  | field :: fields, first, draft => do
    if ← Reader.moreElements first then do
      readElements fields false (← field.reader draft)
    else return draft

/-- Reads the members of a record and makes it. -/
def memberBody (form : Form σ α) : Reader α := do
  settled (form.ofMembers (← Reader.members form.readMember form.blank))

/-- Reads the elements of a record and makes it. -/
def elementBody (form : Form σ α) : Reader α := do
  settled (form.ofElements (← readElements form.fields true form.blank))

/-- Reads a record. -/
def reader (form : Form σ α) : Reader α := Reader.placed do
  match ← Decoder.present with
  | '[' => do
    Reader.take
    Reader.closedBy form.elementBody Reader.endOfList
  | '\x7b' => do
    Reader.take
    Reader.closedBy form.memberBody Reader.endOfObject
  | _ => Reader.mismatch form.expected

/-- The decoder of a record. -/
def decoder (form : Form σ α) : Decoder α := ⟨form.ofValue, form.reader⟩

end Form

end ComponentInstall.Json
