import ComponentInstall.Decimal.Shortest
import ComponentInstall.Json.Value
import ComponentInstall.Text.Quoted

/-!
# Writing a document

`pretty` lays a value out over several lines: each element and each member on a line of its own,
indented by two blanks for every list or object around it, and one blank behind each colon. An empty
list or object stays on its line.

A text escapes the quote, the backslash and the controls, five of them by name and the others as
`\u` with four lower-case digits. Every other character is written as it is.
-/

namespace ComponentInstall.Json

open ComponentInstall.Text ComponentInstall.Decimal

/-- A hexadecimal digit, lower case. -/
def hexChar (n : Nat) : Char := Nat.digitChar n

/-- One character as it stands inside a text. -/
def escapedChar (c : Char) : List Char :=
  match c with
  | '\x22' => ['\\', '\x22']
  | '\\' => ['\\', '\\']
  | '\x08' => ['\\', 'b']
  | '\x0c' => ['\\', 'f']
  | '\n' => ['\\', 'n']
  | '\r' => ['\\', 'r']
  | '\t' => ['\\', 't']
  | _ =>
    if c.toNat < 0x20 then ['\\', 'u', '0', '0', hexChar (c.toNat / 16), hexChar (c.toNat % 16)]
    else [c]

/-- A text between quotes. -/
def writtenText (s : String) : List Char := '\x22' :: (s.toList.flatMap escapedChar ++ ['\x22'])

/-- A number. -/
def writtenNumber : Number → List Char
  | .natural n => Nat.toDigits 10 n
  | .negative n => '-' :: Nat.toDigits 10 n
  | .real x => x.text.toList

/-- A new line that is indented for a depth. -/
def newLine (depth : Nat) : List Char := '\n' :: List.replicate (2 * depth) ' '

mutual

/-- A value at a depth. -/
def written (depth : Nat) : Value → List Char
  | .null => ['n', 'u', 'l', 'l']
  | .boolean true => ['t', 'r', 'u', 'e']
  | .boolean false => ['f', 'a', 'l', 's', 'e']
  | .number n => writtenNumber n
  | .text s => writtenText s
  | .array [] => ['[', ']']
  | .array (element :: rest) =>
    '[' :: (newLine (depth + 1) ++ written (depth + 1) element ++ writtenElements depth rest)
  | .object [] => ['\x7b', '\x7d']
  | .object ((key, value) :: rest) =>
    '\x7b' :: (newLine (depth + 1) ++ writtenText key ++ [':', ' '] ++ written (depth + 1) value
      ++ writtenMembers depth rest)

/-- The elements behind the first one, and the end of their list. -/
def writtenElements (depth : Nat) : List Value → List Char
  | [] => newLine depth ++ [']']
  | element :: rest =>
    ',' :: (newLine (depth + 1) ++ written (depth + 1) element ++ writtenElements depth rest)

/-- The members behind the first one, and the end of their object. -/
def writtenMembers (depth : Nat) : List (String × Value) → List Char
  | [] => newLine depth ++ ['\x7d']
  | (key, value) :: rest =>
    ',' :: (newLine (depth + 1) ++ writtenText key ++ [':', ' '] ++ written (depth + 1) value
      ++ writtenMembers depth rest)

end

/-- A value over several lines. -/
def Value.pretty (value : Value) : String := String.ofList (written 0 value)

end ComponentInstall.Json
