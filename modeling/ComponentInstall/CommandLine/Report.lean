import ComponentInstall.CommandLine.Arguments
import ComponentInstall.Text.Numeral

/-!
# What the program tells its user

A failure is told in one line, followed by what lies behind it, from the outer to the inner reason;
several reasons are numbered from zero. A line break inside a reason is followed by as many blanks
as precede its first line.

A span of time is told in seconds once it reaches one, and in thousandths below that.
-/

namespace ComponentInstall.CommandLine

open Text

/-- Indents what follows the line breaks of a text. -/
def indented (width : Nat) (text : String) : String :=
  String.ofList <| text.toList.flatMap fun c =>
    if c = '\n' then '\n' :: List.replicate width ' ' else [c]

/-- A reason with its number. -/
def numbered (number : Nat) (reason : String) : String :=
  let digits := Nat.toDigits 10 number
  String.ofList (List.replicate (5 - digits.length) ' ' ++ digits) ++ ": " ++ indented 7 reason

/-- Numbered reasons, each on a line of its own. -/
def numberedFrom : Nat → List String → String
  | _, [] => ""
  | number, reason :: rest => "\n" ++ numbered number reason ++ numberedFrom (number + 1) rest

/-- A failure and the reasons behind it. -/
def failure (message : String) (reasons : List String) : String :=
  "Error: " ++ message ++
    (match reasons with
      | [] => ""
      | [reason] => "\n\nCaused by:\n    " ++ indented 4 reason
      | _ => "\n\nCaused by:" ++ numberedFrom 0 reasons) ++ "\n"

/-- A span of time, given in thousandths of a second. -/
def span (thousandths : Nat) : String :=
  if thousandths = 0 then "0ns"
  else if thousandths < 1000 then decimal thousandths ++ "ms"
  else
    let part := Nat.toDigits 10 (1000 + thousandths % 1000) |>.drop 1
    let kept := (part.reverse.dropWhile (· = '0')).reverse
    decimal (thousandths / 1000) ++
      (if kept = [] then "" else "." ++ String.ofList kept) ++ "s"

/-- What the program says about itself. -/
def versionText : String := programName ++ " 0.1.0\n"

/-- A summary of the commands and options. -/
def helpText : String :=
  "Resolve component versions and package locations\n\n" ++
  "Usage: " ++ programName ++ " [OPTIONS] <COMMAND>\n\n" ++
  "Commands:\n" ++
  "  plan    Resolve version, download location, and staging folder for a request\n" ++
  "  latest  Print the latest strictly formatted version among the given candidates\n" ++
  "  help    Print this message or the help of the given subcommand(s)\n\n" ++
  "Options:\n" ++
  "      --config <CONFIG>  JSON configuration file\n" ++
  "  -h, --help             Print help\n" ++
  "  -V, --version          Print version\n"

/-- What is told about refused arguments. -/
def refusal (error : ArgumentError) : String :=
  "error: " ++ error.message ++ "\n\nFor more information, try '--help'.\n"

end ComponentInstall.CommandLine
