import ComponentInstall.CommandLine.Arguments
import ComponentInstall.Disk.Path
import ComponentInstall.Instance
import ComponentInstall.Request

/-!
# Commands

The program has two commands. `plan` plans one request; the name of the component and the region,
platform and processor of the instance must be given, everything else has a default. `latest` prints
the latest of the candidates that follow. Both take a configuration file, which may stand before the
name of the command or behind it; the one behind it counts.
-/

namespace ComponentInstall.CommandLine

open Disk

/-- The options of a plan. The action is kept as it was written. -/
structure PlanOptions where
  name : String
  version : Option String
  action : String
  source : Option String
  wanted : Option String
  target : Instance
deriving DecidableEq, Repr

/-- The request that the options describe. -/
def PlanOptions.request (options : PlanOptions) : Except RequestError Request := do
  let action ← Action.ofText options.action
  let request := Request.new options.name action
  let request := match options.version with
    | some version => request.withVersion version
    | none => request
  return match options.source with
    | some source => request.withSource source
    | none => request

/-- What the program is asked to do. -/
inductive Command
  | plan (options : PlanOptions)
  | latest (wanted : Option String) (candidates : List String)
deriving DecidableEq, Repr

/-- A command and the configuration file for it. -/
structure Invocation where
  config : Option Path
  command : Command
deriving DecidableEq, Repr

/-- What stands before the name of a command. -/
def rootLevel : Level := ⟨["config"], ["config"], true, ["plan", "latest", "help"], false⟩

def planLevel : Level :=
  ⟨["name", "version", "action", "source", "prefix", "region", "platform", "platform-version",
    "arch", "installer-name", "compress-format", "config"], ["config"], false, [], false⟩

def latestLevel : Level := ⟨["prefix", "config"], ["config"], false, [], true⟩

/-- The options of a plan, of which some must be there. -/
def planOptions (progress : Progress) : Except Stop PlanOptions :=
  match progress.get? "name", progress.get? "region", progress.get? "platform",
    progress.get? "arch" with
  | some name, some region, some platform, some arch =>
    .ok
      { name := name
        version := progress.get? "version"
        action := (progress.get? "action").getD "Install"
        source := progress.get? "source"
        wanted := progress.get? "prefix"
        target :=
          { region := region
            platform := platform
            platformVersion := (progress.get? "platform-version").getD ""
            arch := arch
            installerName := (progress.get? "installer-name").getD ""
            compressFormat := (progress.get? "compress-format").getD "zip" } }
  | _, _, _, _ => .error (.refused .argumentsMissing)

/-- Scans all arguments of a command that has no commands inside it. -/
def scanAll (level : Level) (arguments : List String) : Except Stop Progress := do
  let (progress, _) ← level.scan Progress.start arguments
  progress.settlePending level

/-- The command that is named, and the configuration file behind its name. -/
def commandOf (name : String) (arguments : List String) : Except Stop (Command × Option String) :=
  if name = "plan" then do
    let progress ← scanAll planLevel arguments
    return (.plan (← planOptions progress), progress.get? "config")
  else if name = "latest" then do
    let progress ← scanAll latestLevel arguments
    return (.latest (progress.get? "prefix") progress.candidates, progress.get? "config")
  else match arguments with
    | [] => .error .help
    | [topic] =>
      if topic ∈ rootLevel.commands then .error .help else .error (.refused (.unknownCommand topic))
    | topic :: other :: _ =>
      .error (.refused (.unknownCommand (if topic ∈ rootLevel.commands then other else topic)))

/-- What some arguments ask for. -/
def parse (arguments : List String) : Except Stop Invocation := do
  let (progress, found) ← rootLevel.scan Progress.start arguments
  match found with
  | none =>
    let progress ← progress.settlePending rootLevel
    if progress.values = [] then throw .helpUnasked else throw (.refused .commandMissing)
  | some (name, rest) =>
    let (command, inner) ← commandOf name rest
    let progress ← progress.settlePending rootLevel
    let config := match inner with
      | some path => some path
      | none => progress.get? "config"
    return ⟨config.map Disk.Path.mk, command⟩

end ComponentInstall.CommandLine
