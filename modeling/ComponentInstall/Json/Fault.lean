import ComponentInstall.Decimal.Shortest
import ComponentInstall.Json.Value
import ComponentInstall.Text.Quoted

/-!
# What can be wrong with a document

A fault has a cause and, when the document was read from text, the position at which reading
stopped. Causes fall into three kinds: the text ends too early, the text is no JSON, or the JSON is
not what was asked for. The wording of every cause is in `Cause.message`.
-/

namespace ComponentInstall.Json

open ComponentInstall.Text

/-- What stands where something else was expected. -/
inductive Found
  | null
  | boolean (b : Bool)
  | number (n : Number)
  | text (s : String)
  | array
  | object
deriving DecidableEq, Repr

/-- What a value looks like to a reader that expected another one. -/
def Value.found : Value → Found
  | .null => .null
  | .boolean b => .boolean b
  | .number n => .number n
  | .text s => .text s
  | .array _ => .array
  | .object _ => .object

/-- The wording of a misplaced value. -/
def Found.describe : Found → String
  | .null => "null"
  | .boolean true => "boolean `true`"
  | .boolean false => "boolean `false`"
  | .number (.natural n) => "integer `" ++ decimal n ++ "`"
  | .number (.negative n) => "integer `-" ++ decimal n ++ "`"
  | .number (.real x) => "floating point `" ++ x.text ++ "`"
  | .text s => "string " ++ quoted s
  | .array => "sequence"
  | .object => "map"

/-- Why a document is not read. -/
inductive Cause
  | listUnfinished
  | objectUnfinished
  | textUnfinished
  | valueUnfinished
  | colonExpected
  | commaOrBracketExpected
  | commaOrBraceExpected
  | literalExpected
  | valueExpected
  | escapeInvalid
  | numberInvalid
  | numberTooLarge
  | controlInText
  | keyNotText
  | surrogateAlone
  | surrogatePairBroken
  | commaTrailing
  | textTrailing
  | nestedTooDeep
  | wrongType (found : Found) (expected : String)
  | wrongValue (found : Found) (expected : String)
  | wrongLength (length : Nat) (expected : String)
  | fieldMissing (key : String)
  | fieldRepeated (key : String)
  | refused (reason : String)
deriving DecidableEq, Repr

/-- The three ways in which a document can fail. -/
inductive Kind
  | unfinished
  | malformed
  | unfit
deriving DecidableEq, Repr

def Cause.kind : Cause → Kind
  | .listUnfinished | .objectUnfinished | .textUnfinished | .valueUnfinished => .unfinished
  | .wrongType .. | .wrongValue .. | .wrongLength .. | .fieldMissing _ | .fieldRepeated _
  | .refused _ => .unfit
  | _ => .malformed

/-- The wording of a cause. -/
def Cause.message : Cause → String
  | .listUnfinished => "EOF while parsing a list"
  | .objectUnfinished => "EOF while parsing an object"
  | .textUnfinished => "EOF while parsing a string"
  | .valueUnfinished => "EOF while parsing a value"
  | .colonExpected => "expected `:`"
  | .commaOrBracketExpected => "expected `,` or `]`"
  | .commaOrBraceExpected => "expected `,` or `\x7d`"
  | .literalExpected => "expected ident"
  | .valueExpected => "expected value"
  | .escapeInvalid => "invalid escape"
  | .numberInvalid => "invalid number"
  | .numberTooLarge => "number out of range"
  | .controlInText => "control character (\\u0000-\\u001F) found while parsing a string"
  | .keyNotText => "key must be a string"
  | .surrogateAlone => "lone leading surrogate in hex escape"
  | .surrogatePairBroken => "unexpected end of hex escape"
  | .commaTrailing => "trailing comma"
  | .textTrailing => "trailing characters"
  | .nestedTooDeep => "recursion limit exceeded"
  | .wrongType found expected => "invalid type: " ++ found.describe ++ ", expected " ++ expected
  | .wrongValue found expected => "invalid value: " ++ found.describe ++ ", expected " ++ expected
  | .wrongLength length expected => "invalid length " ++ decimal length ++ ", expected " ++ expected
  | .fieldMissing key => "missing field `" ++ key ++ "`"
  | .fieldRepeated key => "duplicate field `" ++ key ++ "`"
  | .refused reason => reason

/-- A position in a text: lines count from one, columns are the bytes read on the line. -/
structure Position where
  line : Nat
  column : Nat
deriving DecidableEq, Repr

/-- A cause and the position at which it was noticed. -/
structure Fault where
  cause : Cause
  position : Option Position
deriving DecidableEq, Repr

/-- The wording of a fault: a known position follows the cause. -/
def Fault.message (fault : Fault) : String :=
  match fault.position with
  | none => fault.cause.message
  | some position =>
    fault.cause.message ++ " at line " ++ decimal position.line ++ " column "
      ++ decimal position.column

end ComponentInstall.Json
