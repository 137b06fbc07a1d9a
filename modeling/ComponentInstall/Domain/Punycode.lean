/-!
# Punycode

A text of any characters can be written with ASCII letters, digits and hyphens. First come its ASCII
characters, and a hyphen if there are any. Then follow the other ones from the smallest to the
largest, each as the distance that a counter goes from the insertion before it: the counter visits
every gap of the text so far for one character after the other.

A distance is a numeral of base 36 whose lowest digit comes first. A digit below the threshold of its
place ends the numeral; thresholds adapt to the size of the distances so far.

Reading inverts writing. It refuses digits that are none, a numeral that does not end, a distance that
leads past the last character or to a surrogate, and one that takes more than 32 bits.
-/

namespace ComponentInstall.Domain.Punycode

/-- The character of a digit: a letter below 26, a decimal digit above. -/
def digitChar (digit : Nat) : Char :=
  if digit < 26 then Char.ofNat ('a'.toNat + digit) else Char.ofNat ('0'.toNat + (digit - 26))

/-- The digit that a character stands for. -/
def digit? (c : Char) : Option Nat :=
  if 'a' ≤ c ∧ c ≤ 'z' then some (c.toNat - 'a'.toNat)
  else if '0' ≤ c ∧ c ≤ '9' then some (c.toNat - '0'.toNat + 26)
  else none

/-- The threshold of a place. Places count up by 36. -/
def threshold (place bias : Nat) : Nat :=
  if place ≤ bias then 1 else if bias + 26 ≤ place then 26 else place - bias

theorem threshold_pos (place bias : Nat) : 1 ≤ threshold place bias := by
  unfold threshold
  split
  · omega
  · split <;> omega

theorem threshold_le (place bias : Nat) : threshold place bias ≤ 26 := by
  unfold threshold
  split
  · omega
  · split <;> omega

/-- How often a distance can be divided by 35 before it is at most 455, times 36, and what is left
of it. -/
def scaled (places distance : Nat) : Nat × Nat :=
  if 455 < distance then scaled (places + 36) (distance / 35) else (places, distance)
termination_by distance
decreasing_by exact Nat.div_lt_self (by omega) (by omega)

/-- The bias behind a distance, when the text has grown to a length. -/
def adapt (distance length : Nat) (first : Bool) : Nat :=
  let halved := if first then distance / 700 else distance / 2
  let (places, left) := scaled 0 (halved + halved / length)
  places + 36 * left / (left + 38)

/-- A distance as a numeral. -/
def numeral (bias place distance : Nat) : List Char :=
  let limit := threshold place bias
  if distance < limit then [digitChar distance]
  else
    digitChar (limit + (distance - limit) % (36 - limit))
      :: numeral bias (place + 36) ((distance - limit) / (36 - limit))
termination_by distance
decreasing_by
  have positive := threshold_pos place bias
  have bounded := threshold_le place bias
  exact Nat.lt_of_le_of_lt (Nat.div_le_self _ _) (by omega)

/-- The state of writing: the distance so far, the bias, and the number of characters written. -/
structure Progress where
  distance : Nat
  bias : Nat
  written : Nat

/-- Goes past one character of the text while `target` is written; `first` is the number of
characters written when that began to be a numeral. -/
def pass (first : Nat) (target : Nat) (progress : Progress) (c : Char) : List Char × Progress :=
  if c.toNat < target then ([], { progress with distance := progress.distance + 1 })
  else if c.toNat = target then
    let bias := adapt progress.distance (progress.written + 1) (progress.written == first)
    (numeral progress.bias 36 progress.distance, ⟨0, bias, progress.written + 1⟩)
  else ([], progress)

/-- Goes past all characters of the text while `target` is written. -/
def passAll (first target : Nat) : Progress → List Char → List Char × Progress
  | progress, [] => ([], progress)
  | progress, c :: rest =>
    let (here, progress) := pass first target progress c
    let (behind, progress) := passAll first target progress rest
    (here ++ behind, progress)

/-- Writes the characters of a text that are among the given ones, which rise. -/
def writeAll (text : List Char) (first : Nat) : Nat → Progress → List Nat → List Char
  | _, _, [] => []
  | reached, progress, target :: rest =>
    let start :=
      { progress with
        distance := progress.distance + (target - reached) * (progress.written + 1) }
    let (here, progress) := passAll first target start text
    here ++ writeAll text first (target + 1) { progress with distance := progress.distance + 1 } rest

/-- Adds a number to rising ones, unless it is there. -/
def insertRising (n : Nat) : List Nat → List Nat
  | [] => [n]
  | head :: rest =>
    if n < head then n :: head :: rest
    else if n = head then head :: rest
    else head :: insertRising n rest

/-- An ASCII character. -/
def isAscii (c : Char) : Bool := decide (c.toNat < 0x80)

/-- Writes a text. -/
def encode (text : List Char) : List Char :=
  let basic := text.filter isAscii
  let others := (text.filter (!isAscii ·)).map Char.toNat |>.foldr insertRising []
  (if basic = [] then [] else basic ++ ['-'])
    ++ writeAll text basic.length 0x80 ⟨0, 72, basic.length⟩ others

/-- A number, unless it takes more than 32 bits. -/
def fitting (n : Nat) : Option Nat := if n < 0x100000000 then some n else none

/-- Reads a numeral that counts on from `sum`: the result and what follows it. -/
def readNumeral (bias : Nat) : Nat → Nat → Nat → List Char → Option (Nat × List Char)
  | _, _, _, [] => none
  | place, weight, sum, c :: rest =>
    let limit := threshold place bias
    match (digit? c).bind fun digit => (fitting (sum + digit * weight)).map ((digit, ·)) with
    | none => none
    | some (digit, sum) =>
      if digit < limit then some (sum, rest)
      else match fitting (weight * (36 - limit)) with
        | none => none
        | some weight => readNumeral bias (place + 36) weight sum rest

theorem length_of_readNumeral (bias place weight sum : Nat) (cs : List Char)
    (result : Nat × List Char) (found : readNumeral bias place weight sum cs = some result) :
    result.2.length < cs.length := by
  induction cs generalizing place weight sum with
  | nil => simp [readNumeral] at found
  | cons c rest inductionHypothesis =>
    rw [readNumeral] at found
    split at found
    · simp at found
    · split at found
      · simp only [Option.some.injEq] at found
        simp [← found]
      · split at found
        · simp at found
        · have shorter := inductionHypothesis _ _ _ found
          simp only [List.length_cons]
          omega

/-- Whether a number is that of a character. -/
def isCharNumber (n : Nat) : Bool := decide (n < 0xd800) || decide (0xdfff < n) && decide (n < 0x110000)

/-- Reads insertions into a text from a counter that has reached a gap and a character. -/
def readAll (bias reached gap : Nat) (text : List Char) (cs : List Char) : Option (List Char) :=
  match cs with
  | [] => some text
  | c :: rest =>
    match _found : readNumeral bias 36 1 gap (c :: rest) with
    | none => none
    | some (sum, behind) =>
      let length := text.length + 1
      let number := reached + sum / length
      if isCharNumber number then
        readAll (adapt (sum - gap) length (gap == 0)) number (sum % length + 1)
          (text.insertIdx (sum % length) (Char.ofNat number)) behind
      else none
termination_by cs.length
decreasing_by exact length_of_readNumeral _ _ _ _ _ _ _found

/-- What stands before the last hyphen, and what stands behind it. -/
def splitLast (cs : List Char) : List Char × List Char :=
  let behind := cs.reverse.takeWhile (· ≠ '-')
  ((cs.reverse.drop (behind.length + 1)).reverse, behind.reverse)

/-- Reads a text. A hyphen with nothing before it is a digit, and so none. -/
def decode (cs : List Char) : Option (List Char) :=
  let (basic, insertions) := splitLast cs
  if basic = [] then readAll 72 0x80 0 [] cs else readAll 72 0x80 0 basic insertions

end ComponentInstall.Domain.Punycode
