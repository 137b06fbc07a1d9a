import ComponentInstall.Text.Unprintable

/-!
# Quoted text

Messages show a path or a misplaced text between double quotes, so that a reader can tell where it
ends and which characters it holds. A quote and a backslash take a backslash, four controls have
names, and whatever else cannot be seen is spelled by its code point in hexadecimal, without
leading zeros. The apostrophe needs no escape, and every other character stands for itself.
-/

namespace ComponentInstall.Text

/-- The hexadecimal digits of a number, lower case and without leading zeros. -/
def hexadecimal (n : Nat) : List Char := Nat.toDigits 16 n

/-- One character as it stands inside quotes. -/
def quotedChar (c : Char) : List Char :=
  match c with
  | '\x00' => ['\\', '0']
  | '\t' => ['\\', 't']
  | '\n' => ['\\', 'n']
  | '\r' => ['\\', 'r']
  | '\\' => ['\\', '\\']
  | '\x22' => ['\\', '\x22']
  | _ => if isUnprintable c then '\\' :: 'u' :: '\x7b' :: (hexadecimal c.toNat ++ ['\x7d']) else [c]

/-- The characters of a text between quotes. -/
def quotedChars (cs : List Char) : List Char := '\x22' :: (cs.flatMap quotedChar ++ ['\x22'])

/-- A text between quotes. -/
def quoted (text : String) : String := String.ofList (quotedChars text.toList)

end ComponentInstall.Text
