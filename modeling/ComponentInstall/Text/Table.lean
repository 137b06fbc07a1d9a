import ComponentInstall.Text.Split

/-!
# Tables of characters

The data of the Unicode standard is kept as text, because there is a lot of it. A table is a list of
entries with blanks or line breaks between them, and all its numbers are hexadecimal. An entry is a
character or a range `first-last`, ends included; `first-last/2` is every second character of the
range. Behind an equals sign may stand what the entry says, one number or several with plus signs
between them.

Numbers name characters by their code points. `Table.has` asks whether a character is in a table,
and `Table.find?` looks up its entry.
-/

namespace ComponentInstall.Text

/-- The value of a hexadecimal digit, lower case. -/
def tableDigit (c : Char) : Nat :=
  if c ≤ '9' then c.toNat - '0'.toNat else c.toNat - 'a'.toNat + 10

/-- A hexadecimal number of a table. -/
def tableNumber (cs : List Char) : Nat := cs.foldl (fun sum c => 16 * sum + tableDigit c) 0

/-- What a table says about some characters. -/
structure Entry where
  first : Nat
  last : Nat
  step : Nat
  value : List Nat
deriving Repr

namespace Entry

/-- The entry that a piece of a table describes. -/
def ofChars (cs : List Char) : Entry :=
  let code := cs.takeWhile (· ≠ '=')
  let value := match cs.dropWhile (· ≠ '=') with
    | [] => []
    | _ :: numbers => (split '+' numbers).map tableNumber
  let range := code.takeWhile (· ≠ '/')
  let step := if range.length = code.length then 1 else 2
  match split '-' range with
  | [first, last] => ⟨tableNumber first, tableNumber last, step, value⟩
  | _ => ⟨tableNumber range, tableNumber range, step, value⟩

/-- Whether an entry is about a character. -/
def covers (entry : Entry) (c : Char) : Bool :=
  decide (entry.first ≤ c.toNat) && decide (c.toNat ≤ entry.last)
    && decide ((c.toNat - entry.first) % entry.step = 0)

/-- What an entry says, as characters. -/
def chars (entry : Entry) : List Char := entry.value.map Char.ofNat

end Entry

/-- A table of characters. -/
abbrev Table := List Entry

namespace Table

/-- The table that a text describes. -/
def ofText (text : String) : Table :=
  let blank := text.toList.map fun c => if c = '\n' then ' ' else c
  ((split ' ' blank).filter (· ≠ [])).map Entry.ofChars

/-- The entry about a character. -/
def find? (table : Table) (c : Char) : Option Entry := List.find? (·.covers c) table

/-- Whether a table has an entry about a character. -/
def has (table : Table) (c : Char) : Bool := (table.find? c).isSome

end Table

end ComponentInstall.Text
