import ComponentInstall.Json.Skip

/-!
# Lists, objects and whole documents

A list is read element by element and an object member by member; what an element or a member has
to be is left to the reader that is passed in. `elements` and `members` therefore serve both a
reader of arbitrary values and the readers of one particular form.

Once an element or a member has failed, the end of its list or object is still looked for, because
a fault without a position takes the position behind that end.

`Value.ofText` reads a document that is a single value, up to the nesting depth that the format
allows.
-/

namespace ComponentInstall.Json

namespace Reader

variable {α σ : Type}

/-- Whether another element follows; `first` tells that none has been read. -/
def moreElements (first : Bool) : Reader Bool := do
  match ← peekPastGaps with
  | none => failNext .listUnfinished
  | some ']' => return false
  | some c =>
    if first then return true
    else if c = ',' then do
      take
      match ← peekPastGaps with
      | some ']' => failNext .commaTrailing
      | some _ => return true
      | none => failNext .valueUnfinished
    else failNext .commaOrBracketExpected

/-- Whether another member follows; `first` tells that none has been read. -/
def moreMembers (first : Bool) : Reader Bool := do
  match ← peekPastGaps with
  | none => failNext .objectUnfinished
  | some '\x7d' => return false
  | some c =>
    if first then
      if c = '\x22' then return true else failNext .keyNotText
    else if c = ',' then do
      take
      match ← peekPastGaps with
      | some '\x22' => return true
      | some '\x7d' => failNext .commaTrailing
      | some _ => failNext .keyNotText
      | none => failNext .valueUnfinished
    else failNext .commaOrBraceExpected

/-- Reads the end of a list. -/
def endOfList : Reader Unit := do
  match ← peekPastGaps with
  | some ']' => take
  | some ',' => do
    take
    match ← peekPastGaps with
    | some ']' => failNext .commaTrailing
    | _ => failNext .textTrailing
  | some _ => failNext .textTrailing
  | none => failNext .listUnfinished

/-- Reads the end of an object. -/
def endOfObject : Reader Unit := do
  match ← peekPastGaps with
  | some '\x7d' => take
  | some ',' => failNext .commaTrailing
  | some _ => failNext .textTrailing
  | none => failNext .objectUnfinished

/-- Reads a key whose opening quote comes next. -/
def key : Reader String := do
  take
  textBody

/-- Reads the colon between a key and its value. -/
def colon : Reader Unit := do
  match ← peekPastGaps with
  | some ':' => take
  | some _ => failNext .colonExpected
  | none => failNext .objectUnfinished

/-- Reads elements up to the end of the list. -/
def elementsFrom (element : Reader α) : Nat → Bool → Reader (List α)
  | 0, _ => pure []
  | fuel + 1, first => do
    if ← moreElements first then
      let head ← element
      let tail ← elementsFrom element fuel false
      return head :: tail
    else return []

/-- Reads all elements of a list behind its opening bracket. -/
def elements (element : Reader α) : Reader (List α) := do
  let bound ← fuel
  elementsFrom element bound true

/-- Reads members up to the end of the object, each of them changing what has been gathered. -/
def membersFrom (member : String → σ → Reader σ) : Nat → Bool → σ → Reader σ
  | 0, _, gathered => pure gathered
  | fuel + 1, first, gathered => do
    if ← moreMembers first then
      let name ← key
      let gathered ← member name gathered
      membersFrom member fuel false gathered
    else return gathered

/-- Reads all members of an object behind its opening brace. -/
def members (member : String → σ → Reader σ) (gathered : σ) : Reader σ := do
  let bound ← fuel
  membersFrom member bound true gathered

/-- The deepest nesting of lists and objects, counting the document itself. -/
def depthLimit : Nat := 127

/-- Reads a list, each element with the given reader. -/
def arrayOf (element : Reader Value) : Reader Value := do
  take
  return .array (← closedBy (elements element) endOfList)

/-- Reads a member with the given reader and adds it to those before it. -/
def memberOf (value : Reader Value) (name : String) (gathered : List (String × Value)) :
    Reader (List (String × Value)) := do
  colon
  return insert name (← value) gathered

/-- Reads an object, each value with the given reader. -/
def objectOf (value : Reader Value) : Reader Value := do
  take
  return .object (← closedBy (members (memberOf value) []) endOfObject)

/-- Reads any value, given how to read one that begins with a bracket or a brace. -/
def valueWith (array object : Reader Value) : Reader Value := do
  match ← peekPastGaps with
  | none => failNext .valueUnfinished
  | some 'n' => do
    take
    literal ['u', 'l', 'l']
    return .null
  | some 't' => do
    take
    literal ['r', 'u', 'e']
    return .boolean true
  | some 'f' => do
    take
    literal ['a', 'l', 's', 'e']
    return .boolean false
  | some '-' => do
    take
    return .number (← numberBody true)
  | some '\x22' => do
    take
    return .text (← textBody)
  | some '[' => array
  | some '\x7b' => object
  | some c =>
    if Text.isDigit c then return .number (← numberBody false)
    else failNext .valueExpected

/-- Reads any value whose lists and objects nest no deeper than the given depth. -/
def value : Nat → Reader Value
  | 0 => valueWith (failNext .nestedTooDeep) (failNext .nestedTooDeep)
  | depth + 1 =>
    let inside := value depth
    valueWith (arrayOf inside) (objectOf inside)

/-- The fault of a value of another form than the expected one. A scalar is read first, so that it
can be shown. -/
def mismatch (expected : String) : Reader α := placed do
  match ← peek with
  | some 'n' => do
    take
    literal ['u', 'l', 'l']
    fail (.wrongType .null expected)
  | some 't' => do
    take
    literal ['r', 'u', 'e']
    fail (.wrongType (.boolean true) expected)
  | some 'f' => do
    take
    literal ['a', 'l', 's', 'e']
    fail (.wrongType (.boolean false) expected)
  | some '-' => do
    take
    let n ← numberBody true
    fail (.wrongType (.number n) expected)
  | some '\x22' => do
    take
    let s ← textBody
    fail (.wrongType (.text s) expected)
  | some '[' => fail (.wrongType .array expected)
  | some '\x7b' => fail (.wrongType .object expected)
  | some c =>
    if Text.isDigit c then do
      let n ← numberBody false
      fail (.wrongType (.number n) expected)
    else failNext .valueExpected
  | none => failNext .valueExpected

/-- Reads a document that holds nothing behind what the reader reads. -/
def document (reader : Reader α) (text : String) : Except Fault α :=
  (do
    let a ← reader
    match ← peekPastGaps with
    | none => return a
    | some _ => failNext .textTrailing : Reader α) (Cursor.start text) |>.1

end Reader

/-- Reads a document that is one value. -/
def Value.ofText (text : String) : Except Fault Value :=
  Reader.document (Reader.value Reader.depthLimit) text

end ComponentInstall.Json
