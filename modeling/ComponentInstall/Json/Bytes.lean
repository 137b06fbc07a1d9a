/-!
# Documents whose bytes are no text

A document that comes as bytes may hold bytes that are no text, but only inside a text that is
skipped. The same rule holds for half a pair of surrogates, so such a byte is read as if it were two
escaped upper halves, which no neighbour completes to a pair. Behind a backslash it is read as a
control, since no escape begins with it.
-/

namespace ComponentInstall.Json

/-- What stands for a byte that is no text. -/
def strayByte (escaped : Bool) : List Char :=
  if escaped then ['\x00'] else "\\ud800\\ud800".toList

/-- Whether what follows a character is escaped by it. -/
def escapes (escaped : Bool) (c : Char) : Bool := !escaped && c = '\\'

/-- The characters of bytes from a place on. -/
def charsFrom (bytes : ByteArray) (place : Nat) (escaped : Bool) : List Char :=
  if place < bytes.size then
    match bytes.utf8DecodeChar? place with
    | some c => c :: charsFrom bytes (place + c.utf8Size) (escapes escaped c)
    | none => strayByte escaped ++ charsFrom bytes (place + 1) false
  else []
termination_by bytes.size - place
decreasing_by
  · have positive := c.utf8Size_pos
    omega
  · omega

/-- The document that some bytes are. -/
def documentOfBytes (bytes : List UInt8) : String := String.ofList (charsFrom ⟨bytes.toArray⟩ 0 false)

end ComponentInstall.Json
