import ComponentInstall.Text.Numeral

/-!
# Percent encoding

An address is ASCII. Every other character, and every ASCII character of the part's own encode set,
is written byte by byte of its UTF-8 form, each as a percent sign and two capital hexadecimal
digits. A percent sign is in no set, so a text that is encoded already stays as it is.

The sets grow from the controls: a fragment also encodes what ends a quotation or a tag, a query and
a path what would begin the next part.
-/

namespace ComponentInstall.Url

/-- A capital hexadecimal digit. -/
def hexCapital (n : Nat) : Char := (Nat.digitChar n).toUpper

/-- One byte, encoded. -/
def encodedByte (byte : UInt8) : List Char :=
  ['%', hexCapital (byte.toNat / 16), hexCapital (byte.toNat % 16)]

/-- One character, encoded. -/
def encodedChar (c : Char) : List Char := (String.utf8EncodeChar c).flatMap encodedByte

/-- A text of which the characters of a set are encoded, and those beyond ASCII. -/
def encode (set : Char → Bool) (cs : List Char) : List Char :=
  cs.flatMap fun c => if decide (0x7f ≤ c.toNat) || set c then encodedChar c else [c]

/-- The controls below the blank. -/
def controlSet (c : Char) : Bool := decide (c.toNat < 0x20)

/-- What a fragment encodes. -/
def fragmentSet (c : Char) : Bool :=
  controlSet c || c = ' ' || c = '\x22' || c = '<' || c = '>' || c = '\x60'

/-- What a path encodes. -/
def pathSet (c : Char) : Bool :=
  fragmentSet c || c = '#' || c = '?' || c = '\x7b' || c = '\x7d'

/-- What the credentials before a host encode. -/
def credentialSet (c : Char) : Bool :=
  pathSet c || c ∈ ['/', ':', ';', '=', '@', '[', '\\', ']', '^', '|']

/-- What a query encodes. -/
def querySet (c : Char) : Bool :=
  controlSet c || c = ' ' || c = '\x22' || c = '#' || c = '<' || c = '>'

/-- What the query of a special address encodes. -/
def specialQuerySet (c : Char) : Bool := querySet c || c = '\x27'

/-- The value of a hexadecimal digit of either case. -/
def hexValue? (c : Char) : Option Nat :=
  if '0' ≤ c ∧ c ≤ '9' then some (c.toNat - '0'.toNat)
  else if 'a' ≤ c ∧ c ≤ 'f' then some (c.toNat - 'a'.toNat + 10)
  else if 'A' ≤ c ∧ c ≤ 'F' then some (c.toNat - 'A'.toNat + 10)
  else none

/-- The bytes of a text of which the percent encoding is undone. A percent sign without two digits
behind it stands for itself. -/
def decodedBytes : List Char → List UInt8
  | '%' :: high :: low :: rest =>
    match hexValue? high, hexValue? low with
    | some high, some low => UInt8.ofNat (16 * high + low) :: decodedBytes rest
    | _, _ => String.utf8EncodeChar '%' ++ decodedBytes (high :: low :: rest)
  | c :: rest => String.utf8EncodeChar c ++ decodedBytes rest
  | [] => []

/-- A text of which the percent encoding is undone, if that is a text. -/
def decode? (cs : List Char) : Option (List Char) :=
  (String.fromUTF8? ⟨(decodedBytes cs).toArray⟩).map String.toList

end ComponentInstall.Url
