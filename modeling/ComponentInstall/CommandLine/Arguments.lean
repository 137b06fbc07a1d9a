/-!
# Arguments of a command

An argument is an option, the value of an option, the name of a command, or a candidate. An option
is spelled in full behind two hyphens and takes one value, which stands in the next argument or,
behind an equals sign, in the same one. What begins with a hyphen is never the value of the option
before it, but a lone hyphen is. Behind a lone pair of hyphens every argument is a candidate.

A value that stands in an argument of its own is only settled when the next option or candidate
comes, or the arguments end. So an option that is unknown is reported before anything that is wrong
with the value before it, and everything that is wrong behind the name of a command is reported
before the value in front of it.

Scanning goes through the arguments once. It stops early for the two flags that ask for help or for
the version.
-/

namespace ComponentInstall.CommandLine

/-- Why arguments are refused. -/
inductive ArgumentError
  | valueMissing (option : String)
  | repeated (option : String)
  | valueUnneeded (value flag : String)
  | unexpected (argument : String)
  | unknownCommand (name : String)
  | commandMissing
  | argumentsMissing
deriving DecidableEq, Repr

/-- The name of the program, as it calls itself. -/
def programName : String := "component-resolver"

/-- How an option is shown: with a capital name for its value. -/
def shown (option : String) : String :=
  let value := option.toList.map fun c => if c = '-' then '_' else c.toUpper
  "--" ++ option ++ " <" ++ String.ofList value ++ ">"

def ArgumentError.message : ArgumentError → String
  | .valueMissing option =>
    "a value is required for '" ++ shown option ++ "' but none was supplied"
  | .repeated option => "the argument '" ++ shown option ++ "' cannot be used multiple times"
  | .valueUnneeded value flag =>
    "unexpected value '" ++ value ++ "' for '--" ++ flag ++ "' found; no more were expected"
  | .unexpected argument => "unexpected argument '" ++ argument ++ "' found"
  | .unknownCommand name => "unrecognized subcommand '" ++ name ++ "'"
  | .commandMissing =>
    "'" ++ programName ++ "' requires a subcommand but one was not provided"
  | .argumentsMissing => "the following required arguments were not provided:"

/-- Why scanning ends without a command to run. -/
inductive Stop
  | help
  | helpUnasked
  | version
  | refused (error : ArgumentError)
deriving DecidableEq, Repr

/-- What a command takes: its options, those of them whose value must not be empty, its flags apart
from help, the commands inside it, and whether it takes candidates. -/
structure Level where
  options : List String
  nonempty : List String
  hasVersion : Bool
  commands : List String
  hasCandidates : Bool
deriving DecidableEq, Repr

/-- What has been scanned: settled options, the option that waits for a value or to be settled,
candidates, and whether only candidates may follow. -/
structure Progress where
  values : List (String × String)
  pending : Option (String × Option String)
  candidates : List String
  trailing : Bool
deriving DecidableEq, Repr

namespace Progress

/-- Nothing has been scanned. -/
def start : Progress := ⟨[], none, [], false⟩

/-- The option that waits for a value. -/
def waiting? (progress : Progress) : Option String :=
  match progress.pending with
  | some (option, none) => some option
  | _ => none

/-- The value of an option. -/
def get? (progress : Progress) (option : String) : Option String := progress.values.lookup option

/-- Settles a value of an option, which must not have one already. -/
def settle (progress : Progress) (level : Level) (option value : String) : Except Stop Progress :=
  if (progress.get? option).isSome then .error (.refused (.repeated option))
  else if value = "" ∧ option ∈ level.nonempty then .error (.refused (.valueMissing option))
  else .ok { progress with values := progress.values ++ [(option, value)], pending := none }

/-- Settles the option that is pending. -/
def settlePending (progress : Progress) (level : Level) : Except Stop Progress :=
  match progress.pending with
  | none => .ok progress
  | some (option, none) => .error (.refused (.valueMissing option))
  | some (option, some value) => progress.settle level option value

end Progress

namespace Level

/-- A flag, which stops the scan. -/
def flag (level : Level) (progress : Progress) (value : Option String) (name : String)
    (stop : Stop) : Except Stop Progress := do
  match value with
  | some value => throw (.refused (.valueUnneeded value name))
  | none =>
    let _ ← progress.settlePending level
    throw stop

/-- An option or a flag behind two hyphens, with the value behind its equals sign. -/
def long (level : Level) (progress : Progress) (name : String) (value : Option String) :
    Except Stop Progress :=
  if name ∈ level.options then do
    let progress ← progress.settlePending level
    match value with
    | some value => progress.settle level name value
    | none => return { progress with pending := some (name, none) }
  else if name = "help" then level.flag progress value name .help
  else if name = "version" ∧ level.hasVersion then level.flag progress value name .version
  else .error (.refused (.unexpected ("--" ++ name)))

/-- A flag behind one hyphen. -/
def short (level : Level) (progress : Progress) (c : Char) : Except Stop Progress :=
  if c = 'h' then level.flag progress none "help" .help
  else if c = 'V' ∧ level.hasVersion then level.flag progress none "version" .version
  else .error (.refused (.unexpected (String.ofList ['-', c])))

/-- An argument that is neither an option nor the value of one. -/
def other (level : Level) (progress : Progress) (argument : String) : Except Stop Progress :=
  if level.hasCandidates then do
    let progress ← progress.settlePending level
    return { progress with candidates := progress.candidates ++ [argument] }
  else if level.commands = [] ∨ progress.trailing ∧ argument ∈ level.commands then
    .error (.refused (.unexpected argument))
  else .error (.refused (.unknownCommand argument))

/-- The name of an option, and its value behind an equals sign. -/
def splitEquals (cs : List Char) : String × Option String :=
  match cs.dropWhile (· ≠ '=') with
  | [] => (String.ofList cs, none)
  | _ :: value => (String.ofList (cs.takeWhile (· ≠ '=')), some (String.ofList value))

/-- An argument that does not name a command. -/
def argument (level : Level) (progress : Progress) (text : String) : Except Stop Progress :=
  if progress.trailing then level.other progress text
  else match text.toList with
    | ['-', '-'] => .ok { progress with trailing := true }
    | '-' :: '-' :: rest =>
      let (name, value) := splitEquals rest
      level.long progress name value
    | '-' :: c :: _ => level.short progress c
    | _ =>
      match progress.waiting? with
      | some option => .ok { progress with pending := some (option, some text) }
      | none => level.other progress text

/-- Scans arguments up to the name of a command, which is given back with the arguments behind it. -/
def scan (level : Level) : Progress → List String →
    Except Stop (Progress × Option (String × List String))
  | progress, [] => .ok (progress, none)
  | progress, text :: rest =>
    if !progress.trailing && progress.waiting?.isNone && level.commands.contains text then
      .ok (progress, some (text, rest))
    else do level.scan (← level.argument progress text) rest

end Level

end ComponentInstall.CommandLine
