import ComponentInstall.Proofs.Json.Rules

/-!
# The language of documents

The rules of the parts of a document: its texts, its numbers, and the values that are skipped because
nobody asked for them. They follow the syntax of JSON, with what the readers leave open. A text that is
skipped may hold a surrogate alone, and a number ends only where it cannot go on, so no rule has to look
ahead.

A skipped value may nest lists and objects to any depth. `Skipped` is a value, `Inside` is what stands
behind the opening sign of a list or an object, and `Behind` is what stands behind one of its values.
-/

namespace ComponentInstall.Json.Grammar

open Text

/-- The characters of a text, from behind its opening quote. -/
inductive Characters : Rule (List Char)
  | done {rest : List Char} : Characters ('\x22' :: rest) [] rest
  | plain {c : Char} {input cs rest : List Char}
      (unescaped : c ≠ '\x22' ∧ c ≠ '\\' ∧ isControl c = false) (later : Characters input cs rest) :
      Characters (c :: input) (c :: cs) rest
  | named {letter c : Char} {input cs rest : List Char} (names : namedEscape? letter = some c)
      (later : Characters input cs rest) : Characters ('\\' :: letter :: input) (c :: cs) rest
  | unit {a b c d : Char} {unit : Nat} {input cs rest : List Char} (digits : unit? a b c d = some unit)
      (whole : isUpperSurrogate unit = false ∧ isLowerSurrogate unit = false)
      (later : Characters input cs rest) :
      Characters ('\\' :: 'u' :: a :: b :: c :: d :: input) (Char.ofNat unit :: cs) rest
  | pair {a b c d e f g h : Char} {upper lower : Nat} {input cs rest : List Char}
      (first : unit? a b c d = some upper) (isUpper : isUpperSurrogate upper = true)
      (second : unit? e f g h = some lower) (isLower : isLowerSurrogate lower = true)
      (later : Characters input cs rest) :
      Characters
        ('\\' :: 'u' :: a :: b :: c :: d :: '\\' :: 'u' :: e :: f :: g :: h :: input)
        (pairedChar upper lower :: cs) rest

/-- A text that is skipped, from behind its opening quote. Units may stand alone in it. -/
inductive SkippedCharacters : List Char → List Char → Prop
  | done {rest : List Char} : SkippedCharacters ('\x22' :: rest) rest
  | plain {c : Char} {input rest : List Char}
      (unescaped : c ≠ '\x22' ∧ c ≠ '\\' ∧ isControl c = false)
      (later : SkippedCharacters input rest) : SkippedCharacters (c :: input) rest
  | named {letter c : Char} {input rest : List Char} (names : namedEscape? letter = some c)
      (later : SkippedCharacters input rest) : SkippedCharacters ('\\' :: letter :: input) rest
  | unit {a b c d : Char} {unit : Nat} {input rest : List Char} (digits : unit? a b c d = some unit)
      (later : SkippedCharacters input rest) :
      SkippedCharacters ('\\' :: 'u' :: a :: b :: c :: d :: input) rest

/-- A run of digits that is not empty, with all that belong to it. -/
def Digits (input rest : List Char) : Prop :=
  (∃ c, input.head? = some c ∧ isDigit c = true) ∧ input.dropWhile isDigit = rest

/-- What is left behind a sign, if there is one. -/
def unsigned : List Char → List Char
  | '+' :: rest => rest
  | '-' :: rest => rest
  | input => input

/-- The exponent of a number, if there is one. -/
inductive Exponent : List Char → List Char → Prop
  | absent {input : List Char} (none : input.head? ≠ some 'e' ∧ input.head? ≠ some 'E') :
      Exponent input input
  | present {letter : Char} {input rest : List Char} (begins : letter = 'e' ∨ letter = 'E')
      (digits : Digits (unsigned input) rest) : Exponent (letter :: input) rest

/-- What follows the whole part of a number: perhaps a fraction, then perhaps an exponent. -/
inductive Fraction : List Char → List Char → Prop
  | absent {input rest : List Char} (none : input.head? ≠ some '.')
      (exponent : Exponent input rest) : Fraction input rest
  | present {input middle rest : List Char} (digits : Digits input middle)
      (exponent : Exponent middle rest) : Fraction ('.' :: input) rest

/-- A number without its sign. It ends only where it cannot go on. -/
inductive Numeral : List Char → List Char → Prop
  | zero {input rest : List Char} (alone : ∀ c, input.head? = some c → isDigit c = false)
      (later : Fraction input rest) : Numeral ('0' :: input) rest
  | other {c : Char} {input rest : List Char} (nonzero : c ≠ '0') (digit : isDigit c = true)
      (later : Fraction (input.dropWhile isDigit) rest) : Numeral (c :: input) rest

/-- The words that are values, each as its first letter and the other ones. -/
def words : List (Char × List Char) :=
  [('n', ['u', 'l', 'l']), ('t', ['r', 'u', 'e']), ('f', ['a', 'l', 's', 'e'])]

/-- A value that is neither list nor object, from behind its first character. -/
inductive Scalar : Char → List Char → List Char → Prop
  | word {c : Char} {cs rest : List Char} (known : (c, cs) ∈ words) : Scalar c (cs ++ rest) rest
  | text {input rest : List Char} (characters : SkippedCharacters input rest) :
      Scalar '\x22' input rest
  | negative {input rest : List Char} (numeral : Numeral input rest) : Scalar '-' input rest
  | number {c : Char} {input rest : List Char} (digit : isDigit c = true)
      (numeral : Numeral (c :: input) rest) : Scalar c input rest

/-- The sign that begins a list or an object. -/
def opening : Frame → Char
  | .list => '['
  | .object => '\x7b'

/-- A key that is skipped, with the colon behind it. -/
def SkippedKey (input rest : List Char) : Prop :=
  ∃ text middle, pastGaps input = '\x22' :: text ∧ SkippedCharacters text middle ∧
    pastGaps middle = ':' :: rest

/-- What stands before a value: nothing in a list, and in an object a key. -/
def Lead : Frame → List Char → List Char → Prop
  | .list, input, rest => input = rest
  | .object, input, rest => SkippedKey input rest

mutual

/-- A value that is skipped. -/
inductive Skipped : List Char → List Char → Prop
  | scalar {c : Char} {input behind rest : List Char} (first : pastGaps input = c :: behind)
      (scalar : Scalar c behind rest) : Skipped input rest
  | frame {frame : Frame} {input inside rest : List Char}
      (first : pastGaps input = opening frame :: inside) (inside : Inside frame inside rest) :
      Skipped input rest

/-- What stands in a list or an object, with its closing sign. -/
inductive Inside : Frame → List Char → List Char → Prop
  | nothing {frame : Frame} {input rest : List Char}
      (closed : pastGaps input = Reader.closing frame :: rest) : Inside frame input rest
  | values {frame : Frame} {input start middle rest : List Char} (lead : Lead frame input start)
      (value : Skipped start middle) (later : Behind frame middle rest) : Inside frame input rest

/-- What stands behind a value in a list or an object, with the closing sign. -/
inductive Behind : Frame → List Char → List Char → Prop
  | nothing {frame : Frame} {input rest : List Char}
      (closed : pastGaps input = Reader.closing frame :: rest) : Behind frame input rest
  | values {frame : Frame} {input behind start middle rest : List Char}
      (comma : pastGaps input = ',' :: behind) (lead : Lead frame behind start)
      (value : Skipped start middle) (later : Behind frame middle rest) : Behind frame input rest

end

/-- A value in a list or an object, with what stands before it. -/
def Entered (frame : Frame) (input rest : List Char) : Prop :=
  ∃ start, Lead frame input start ∧ Skipped start rest

/-- What stands behind a value up to the end of all that encloses it. -/
inductive Closed : List Frame → List Char → List Char → Prop
  | done {rest : List Char} : Closed [] rest rest
  | around {frame : Frame} {frames : List Frame} {input middle rest : List Char}
      (inner : Behind frame input middle) (outer : Closed frames middle rest) :
      Closed (frame :: frames) input rest

/-- A text with its quotes. -/
def Quoted : Rule String := fun input s rest =>
  ∃ behind, pastGaps input = '\x22' :: behind ∧ Characters behind s.toList rest

/-- The word that says that nothing is given. -/
def Null (input rest : List Char) : Prop := pastGaps input = ['n', 'u', 'l', 'l'] ++ rest

/-- What stands before an element or a member: nothing before the first one, and a comma before any
other. -/
def Separated : Bool → List Char → List Char → Prop
  | true, input, start => pastGaps input = start
  | false, input, start => ∃ behind, pastGaps input = ',' :: behind ∧ pastGaps behind = start

section

variable {α σ : Type}

/-- The elements of a list, up to its closing sign. -/
inductive Elements (element : Rule α) : Bool → Rule (List α)
  | nothing {first : Bool} {input rest : List Char} (closed : pastGaps input = ']' :: rest) :
      Elements element first input [] (']' :: rest)
  | more {first : Bool} {input start middle rest : List Char} {a : α} {as : List α}
      (separated : Separated first input start) (head : element start a middle)
      (tail : Elements element false middle as rest) : Elements element first input (a :: as) rest

/-- A list of elements of one kind. -/
def Listed (element : Rule α) : Rule (List α) := fun input as rest =>
  ∃ inside middle, pastGaps input = '[' :: inside ∧ Elements element true inside as middle ∧
    pastGaps middle = ']' :: rest

/-- The members of an object, each of which changes what has been gathered, up to the closing sign. -/
inductive Members (member : String → σ → Rule σ) : Bool → σ → Rule σ
  | nothing {first : Bool} {gathered : σ} {input rest : List Char}
      (closed : pastGaps input = '\x7d' :: rest) :
      Members member first gathered input gathered ('\x7d' :: rest)
  | more {first : Bool} {gathered next last : σ} {input text behind middle rest : List Char}
      {key : String} (separated : Separated first input ('\x22' :: text))
      (characters : Characters text key.toList behind) (value : member key gathered behind next middle)
      (later : Members member false next middle last rest) :
      Members member first gathered input last rest

/-- A member of a record behind its key. A key that no field has is skipped with its value, and a field
that has been seen must not come again. The values of the fields have rules of their own, by their keys. -/
inductive Member (form : Form σ α) (values : String → σ → Rule σ) : String → σ → Rule σ
  | unknown {key : String} {draft : σ} {input behind rest : List Char}
      (absent : form.field? key = none) (colon : pastGaps input = ':' :: behind)
      (skipped : Skipped behind rest) : Member form values key draft input draft rest
  | known {key : String} {draft next : σ} {field : Field σ} {input behind rest : List Char}
      (found : form.field? key = some field) (fresh : field.filled draft = false)
      (colon : pastGaps input = ':' :: behind) (value : values key draft behind next rest) :
      Member form values key draft input next rest

/-- The fields of a record that is given as a list. Fields that are not given are left as they are. -/
inductive Fields (values : String → σ → Rule σ) : List (Field σ) → Bool → σ → Rule σ
  | all {first : Bool} {draft : σ} {input : List Char} : Fields values [] first draft input draft input
  | nothing {field : Field σ} {fields : List (Field σ)} {first : Bool} {draft : σ}
      {input rest : List Char} (closed : pastGaps input = ']' :: rest) :
      Fields values (field :: fields) first draft input draft (']' :: rest)
  | more {field : Field σ} {fields : List (Field σ)} {first : Bool} {draft next last : σ}
      {input start middle rest : List Char} (separated : Separated first input start)
      (value : values field.key draft start next middle)
      (later : Fields values fields false next middle last rest) :
      Fields values (field :: fields) first draft input last rest

/-- A record, which is given as an object or as a list. -/
inductive Record (form : Form σ α) (values : String → σ → Rule σ) : Rule α
  | object {draft : σ} {a : α} {input inside middle rest : List Char}
      (begins : pastGaps input = '\x7b' :: inside)
      (members : Members (Member form values) true form.blank inside draft middle)
      (ends : pastGaps middle = '\x7d' :: rest) (finished : form.finish draft = .ok a) :
      Record form values input a rest
  | list {draft : σ} {a : α} {input inside middle rest : List Char}
      (begins : pastGaps input = '[' :: inside)
      (fields : Fields values form.fields true form.blank inside draft middle)
      (ends : pastGaps middle = ']' :: rest) (finished : form.finish draft = .ok a) :
      Record form values input a rest

end

end ComponentInstall.Json.Grammar
