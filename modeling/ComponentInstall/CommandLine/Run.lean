import ComponentInstall.CommandLine.Command
import ComponentInstall.CommandLine.Report
import ComponentInstall.Planning.FeedBacked

/-!
# Running a command

A run goes through four stages: arguments, configuration, log and command. Arguments that are refused
and a configuration that does not load end the run before the disk is touched. A log whose folder cannot
be made is only worth a warning, but a log that cannot be opened in its folder breaks the run off. What
the lines of the log say is not decided here: they are handed in with the run, as any text.

The time that a lookup may take is not measured. The network of a run stands for what is answered within
that time, and it is silent where nothing is. That the client which sends the requests cannot be set up
is left out, so there is a planner for every configuration.

A run that fails says so on the error stream only, and prints nothing.
-/

namespace ComponentInstall.CommandLine

open Disk Feed Planning

/-- What a run comes to, with the requests that reached a host. -/
structure Report where
  exitCode : Nat
  output : String
  errors : String
  received : List Url.Address

/-- A run that prints something and succeeds. -/
def success (output : String) : Report := ⟨0, output, "", []⟩

/-- A run that fails for some reasons. -/
def failed (message : String) (reasons : List String) : Report := ⟨1, "", failure message reasons, []⟩

/-- The result of arguments that do not lead to a command. -/
def stopped : Stop → Report
  | .help => success helpText
  | .version => success versionText
  | .helpUnasked => ⟨2, "", helpText, []⟩
  | .refused error => ⟨2, "", refusal error, []⟩

/-- A run that breaks off because its log cannot be opened. -/
def brokenOff (cause : IoError) : Report :=
  ⟨101, "", "initializing rolling file appender failed: " ++ cause.message ++ "\n", []⟩

/-- Why there is no log: its folder cannot be made, or it cannot be opened in its folder. -/
inductive LogError
  | folder (cause : IoError)
  | file (cause : IoError)
deriving DecidableEq, Repr

/-- What a run writes to its log: the lines that are there when the command begins, and those behind
them. -/
structure Journal where
  early : String
  late : String

/-- The warning about a log whose folder cannot be made. -/
def warning (cause : IoError) : String := "warning: logging disabled: " ++ cause.message ++ "\n"

/-- The planner of a run. -/
def plannerOf (config : Config) (environment : Environment) (options : PlanOptions) : Planner :=
  Planner.ofConfig config environment options.wanted

/-- Tells why there is no plan. A lookup that got no answer has run out of time. -/
def unplanned (config : Config) (request : Request) (error : PlanError) : String × List String :=
  match error with
  | .versionLookup (.listing .noAnswer) =>
    ("Timed out resolving " ++ request.name ++ " after " ++ span config.fetchTimeout,
      [ListingError.noAnswer.message])
  | _ => (error.message, error.reasons)

/-- What is told of the plan for a request. -/
def told (config : Config) (request : Request) : Except PlanError InstallPlan → Report
  | .ok plan => success (plan.toJson.pretty ++ "\n")
  | .error error =>
    let (message, reasons) := unplanned config request error
    failed message reasons

section

variable {m : Type → Type} [Monad m] [MonadDisk m]

/-- Loads the configuration of a run. -/
def configOfM : Option Path → m (Except ConfigError Config)
  | none => return .ok .default
  | some path => Config.loadM path

/-- Opens the log, which is made unless it is there, and writes the first lines to it. -/
def openLogM (environment : Environment) (lines : String) : m (Except LogError Unit) := do
  match ← MonadDisk.createFolders environment.dataDirectory with
  | .error cause => return .error (.folder cause)
  | .ok () =>
    match ← MonadDisk.append environment.logPath lines with
    | .error cause => return .error (.file cause)
    | .ok () => return .ok ()

/-- Runs `plan`. -/
def runPlanM (config : Config) (environment : Environment) (network : Network)
    (options : PlanOptions) : m Report := do
  match options.request with
  | .error error => return failed error.message []
  | .ok request =>
    let planner := plannerOf config environment options
    let (outcome, asked) ←
      planner.planM (Feed.source planner.template network) request options.target
    return { told config request outcome with received := planner.received network asked }

/-- Runs a command. -/
def runCommandM (config : Config) (environment : Environment) (network : Network) :
    Command → m Report
  | .latest wanted candidates => return success (Version.latest wanted candidates ++ "\n")
  | .plan options => runPlanM config environment network options

/-- Does what the arguments ask for. -/
def performM (environment : Environment) (network : Network) (journal : Journal)
    (invocation : Invocation) : m Report := do
  match ← configOfM invocation.config with
  | .error error => return failed error.message [error.cause]
  | .ok config =>
    match ← openLogM environment journal.early with
    | .error (.file cause) => return brokenOff cause
    | .error (.folder cause) =>
      let report ← runCommandM config environment network invocation.command
      return { report with errors := warning cause ++ report.errors }
    | .ok () =>
      let report ← runCommandM config environment network invocation.command
      -- the last lines are written if they can be
      discard <| MonadDisk.append environment.logPath journal.late
      return report

/-- Runs the program. -/
def runM (environment : Environment) (network : Network) (journal : Journal)
    (arguments : List String) : m Report := do
  match parse arguments with
  | .error stop => return stopped stop
  | .ok invocation => performM environment network journal invocation

end

/-- The result of a run on a disk, and the disk behind it. -/
structure Outcome extends Report where
  disk : State

/-- The outcome of a run that is made on a disk. -/
def Outcome.ofRun (run : OnDisk Report) (disk : State) : Outcome :=
  let (report, disk) := run.run disk
  ⟨report, disk⟩

section

variable (config : Config) (environment : Environment) (network : Network) (journal : Journal)

/-- The configuration of a run on a disk. -/
def configOf (path : Option Path) (disk : State) : Except ConfigError Config :=
  ((configOfM path : OnDisk _).run disk).1

/-- Opening the log on a disk. -/
def openLog (lines : String) (disk : State) : Except LogError Unit × State :=
  (openLogM environment lines : OnDisk _).run disk

/-- Running `plan` on a disk. -/
def runPlan (options : PlanOptions) (disk : State) : Outcome :=
  .ofRun (runPlanM config environment network options) disk

/-- Running a command on a disk. -/
def runCommand (command : Command) (disk : State) : Outcome :=
  .ofRun (runCommandM config environment network command) disk

/-- Doing on a disk what the arguments ask for. -/
def perform (invocation : Invocation) (disk : State) : Outcome :=
  .ofRun (performM environment network journal invocation) disk

/-- Running the program on a disk. -/
def run (arguments : List String) (disk : State) : Outcome :=
  .ofRun (runM environment network journal arguments) disk

end

/-- Loading the configuration leaves the disk as it is. -/
theorem run_configOfM (path : Option Path) (disk : State) :
    (configOfM path : OnDisk _).run disk = (configOf path disk, disk) := by
  cases path with
  | none => rfl
  | some path => exact Config.run_loadM path disk

theorem openLog_eq (environment : Environment) (lines : String) (disk : State) :
    openLog environment lines disk =
      match disk.createFolders environment.dataDirectory with
      | (.error cause, disk) => (.error (.folder cause), disk)
      | (.ok (), disk) =>
        match disk.append environment.logPath lines with
        | (.error cause, disk) => (.error (.file cause), disk)
        | (.ok (), disk) => (.ok (), disk) := by
  simp only [openLog, openLogM, OnDisk.run_bind, OnDisk.run_createFolders]
  generalize disk.createFolders environment.dataDirectory = made
  obtain ⟨cause | done, around⟩ := made
  · rfl
  · simp only [OnDisk.run_bind, OnDisk.run_append]
    generalize around.append environment.logPath lines = opened
    obtain ⟨cause | done, after⟩ := opened <;> rfl

theorem runPlan_eq (config : Config) (environment : Environment) (network : Network)
    (options : PlanOptions) (disk : State) :
    runPlan config environment network options disk =
      match options.request with
      | .error error => ⟨failed error.message [], disk⟩
      | .ok request =>
        let planned := (plannerOf config environment options).planFromFeed network request
          options.target disk
        ⟨{ told config request planned.outcome with received := planned.received }, planned.disk⟩ := by
  rw [runPlan, Outcome.ofRun, runPlanM]
  cases options.request <;> rfl

theorem runCommand_plan (config : Config) (environment : Environment) (network : Network)
    (options : PlanOptions) (disk : State) :
    runCommand config environment network (.plan options) disk =
      runPlan config environment network options disk := rfl

theorem perform_eq (environment : Environment) (network : Network) (journal : Journal)
    (invocation : Invocation) (disk : State) :
    perform environment network journal invocation disk =
      match configOf invocation.config disk with
      | .error error => ⟨failed error.message [error.cause], disk⟩
      | .ok config =>
        match openLog environment journal.early disk with
        | (.error (.file cause), disk) => ⟨brokenOff cause, disk⟩
        | (.error (.folder cause), disk) =>
          let outcome := runCommand config environment network invocation.command disk
          { outcome with errors := warning cause ++ outcome.errors }
        | (.ok (), disk) =>
          let outcome := runCommand config environment network invocation.command disk
          { outcome with disk := (outcome.disk.append environment.logPath journal.late).2 } := by
  simp only [perform, Outcome.ofRun, performM, OnDisk.run_bind, run_configOfM]
  cases configOf invocation.config disk with
  | error error => rfl
  | ok config =>
    have opening : (openLogM environment journal.early : OnDisk _).run disk =
        openLog environment journal.early disk := rfl
    simp only [OnDisk.run_bind, opening]
    generalize openLog environment journal.early disk = opened
    obtain ⟨(cause | cause) | done, around⟩ := opened <;> rfl

end ComponentInstall.CommandLine
