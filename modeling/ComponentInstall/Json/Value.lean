import ComponentInstall.Decimal.Double

/-!
# JSON values

A document is read into a value of this type. A number keeps the three ranges apart in which it can
be exact: a machine word, the negative of one up to `2 ^ 63`, and a double for everything else.

The members of an object stand in the order of their keys and each key occurs once; `insert` is the
only way in which members are added, and a key that comes again replaces what it held.
-/

namespace ComponentInstall.Json

open ComponentInstall.Decimal

/-- A number of a document. `negative n` stands for `-n`. -/
inductive Number
  | natural (n : Nat)
  | negative (n : Nat)
  | real (x : Double)
deriving DecidableEq, Repr

/-- A document, or a part of one. -/
inductive Value
  | null
  | boolean (b : Bool)
  | number (n : Number)
  | text (s : String)
  | array (elements : List Value)
  | object (members : List (String × Value))
deriving Repr

/-- Adds a member in the order of the keys, replacing an earlier one of the same key. -/
def insert (key : String) (value : Value) : List (String × Value) → List (String × Value)
  | [] => [(key, value)]
  | (other, held) :: rest =>
    if key = other then (key, value) :: rest
    else if key < other then (key, value) :: (other, held) :: rest
    else (other, held) :: insert key value rest

/-- The member of a key, for an object that has it. -/
def Value.get? (key : String) : Value → Option Value
  | .object members => members.lookup key
  | _ => none

end ComponentInstall.Json
