import ComponentInstall.Config
import ComponentInstall.Json.Printer
import ComponentInstall.Location.Package
import ComponentInstall.Planning.Target
import ComponentInstall.Staging.Folder
import ComponentInstall.Staging.Marker

/-!
# Install plans

A plan holds everything that is needed to act on a request: the version, where its package is
published, and the folder in which it is staged. Planning validates the request, settles the version
and only then touches the disk, by making the staging folder. A request that fails earlier leaves the
disk as it was.

A planner is told apart from the candidate source that it asks. The result of planning shows the
questions that were asked, so that nobody has to watch the source.
-/

namespace ComponentInstall.Planning

open Disk Feed Json Staging

/-- Why there is no plan. -/
inductive PlanError
  | request (cause : RequestError)
  | versionLookup (cause : ResolveError)
  | staging (cause : StagingError)
deriving DecidableEq, Repr

namespace PlanError

def message : PlanError → String
  | .request cause => "Invalid request: " ++ cause.message
  | .versionLookup cause => "Version lookup failed: " ++ cause.message
  | .staging cause => "Staging failed: " ++ cause.message

/-- What lies behind the error, from the outer to the inner reason. -/
def reasons : PlanError → List String
  | .request cause => [cause.message]
  | .versionLookup cause => cause.message :: cause.reasons
  | .staging cause => [cause.message, cause.cause.message]

end PlanError

/-- What is to be done for a request. The installed version is the one before anything is done, and
is empty if there is none. There is no manifest when the request names its package itself. -/
structure InstallPlan where
  name : String
  action : Action
  version : String
  installedVersion : String
  alreadyInstalled : Bool
  manifestUrl : Option String
  packageUrl : String
  stagingPath : Path
  packageStaged : Bool
deriving DecidableEq, Repr

/-- A plan as data. -/
def InstallPlan.toJson (plan : InstallPlan) : Value :=
  .object
    [ ("name", .text plan.name), ("action", .text plan.action.text),
      ("version", .text plan.version), ("installedVersion", .text plan.installedVersion),
      ("alreadyInstalled", .boolean plan.alreadyInstalled),
      ("manifestUrl", (plan.manifestUrl.map Value.text).getD .null),
      ("packageUrl", .text plan.packageUrl), ("stagingPath", .text plan.stagingPath.text),
      ("packageStaged", .boolean plan.packageStaged) ]

/-- Where plans are made, and how published versions are narrowed. -/
structure Planner where
  stagingRoot : Path
  installedRoot : Path
  template : String
  wanted : Option String
deriving DecidableEq, Repr

/-- The result of planning: its outcome, the disk behind it and the questions that were asked. -/
structure Planned where
  outcome : Except PlanError InstallPlan
  disk : State
  asked : List Query

namespace Planner

/-- The planner of a configuration. -/
def ofConfig (config : Config) (environment : Environment) (wanted : Option String) : Planner :=
  ⟨config.stagingRoot environment, config.installedRoot environment, config.componentUrl, wanted⟩

/-- The manifest of a request, unless the request names its package itself. -/
def manifestUrl (planner : Planner) (request : Request) (target : Instance) : Option String :=
  match request.source with
  | some _ => none
  | none => some (Location.manifest planner.template request.name target)

/-- The package of a version for a request. -/
def packageUrl (planner : Planner) (request : Request) (target : Instance) (version : String) :
    String :=
  match request.source with
  | some source => source
  | none =>
    Location.package planner.template request.name version target
      (Location.packageName request.name target)

/-- The plan for a version whose staging folder is there. -/
def assemble (planner : Planner) (request : Request) (target : Instance)
    (installed version : String) (staged : Bool) : InstallPlan where
  name := request.name
  action := request.action
  version := version
  installedVersion := installed
  alreadyInstalled := installed = version
  manifestUrl := planner.manifestUrl request target
  packageUrl := planner.packageUrl request target version
  stagingPath := folder planner.stagingRoot request.name version
  packageStaged := staged

section

variable {m : Type → Type} [Monad m] [MonadDisk m]

/-- Makes the staging folder of a version and the plan for it. -/
def stageM (planner : Planner) (request : Request) (target : Instance)
    (installed version : String) : m (Except PlanError InstallPlan) := do
  match ← createFolderM planner.stagingRoot request.name version with
  | .error cause => return .error (.staging cause)
  | .ok _ =>
    let staged ← hasPackageM planner.stagingRoot request.name version
    return .ok (planner.assemble request target installed version staged)

/-- Plans a request for an instance, and keeps the questions that are asked. -/
def planM (planner : Planner) (source : CandidateSource) (request : Request) (target : Instance) :
    m (Except PlanError InstallPlan × List Query) := do
  match request.validate with
  | .error cause => return (.error (.request cause), [])
  | .ok () =>
    let installed ← currentM planner.installedRoot request.name
    let about := targetBeside installed request
    let asked := about.queries request target
    match about.resolve source planner.wanted request target with
    | .error cause => return (.error (.versionLookup cause), asked)
    | .ok version => return (← planner.stageM request target installed version, asked)

end

/-- Staging a version on a disk. -/
def stage (planner : Planner) (request : Request) (target : Instance)
    (installed version : String) (disk : State) : Except PlanError InstallPlan × State :=
  (planner.stageM request target installed version : OnDisk _).run disk

theorem stage_eq (planner : Planner) (request : Request) (target : Instance)
    (installed version : String) (disk : State) :
    planner.stage request target installed version disk =
      match createFolder planner.stagingRoot request.name version disk with
      | (.error cause, disk) => (.error (.staging cause), disk)
      | (.ok _, disk) =>
        let staged := hasPackage planner.stagingRoot request.name version disk
        (.ok (planner.assemble request target installed version staged), disk) := by
  rw [stage, stageM, OnDisk.run_bind, ← createFolder]
  generalize createFolder planner.stagingRoot request.name version disk = made
  obtain ⟨cause | path, around⟩ := made
  · rfl
  · simp only [OnDisk.run_bind, run_hasPackageM]
    rfl

/-- The result of planning a request for an instance on a disk. -/
def plan (planner : Planner) (source : CandidateSource) (request : Request) (target : Instance)
    (disk : State) : Planned :=
  let ((outcome, asked), disk) := (planner.planM source request target : OnDisk _).run disk
  ⟨outcome, disk, asked⟩

theorem plan_eq (planner : Planner) (source : CandidateSource) (request : Request) (target : Instance)
    (disk : State) :
    planner.plan source request target disk =
      match request.validate with
      | .error cause => ⟨.error (.request cause), disk, []⟩
      | .ok () =>
        let installed := current planner.installedRoot request.name disk
        let about := targetBeside installed request
        let asked := about.queries request target
        match about.resolve source planner.wanted request target with
        | .error cause => ⟨.error (.versionLookup cause), disk, asked⟩
        | .ok version =>
          let (outcome, disk) := planner.stage request target installed version disk
          ⟨outcome, disk, asked⟩ := by
  rw [plan, planM]
  cases request.validate with
  | error cause => rfl
  | ok done =>
    simp only [OnDisk.run_bind, run_currentM]
    cases (targetBeside (current planner.installedRoot request.name disk) request).resolve source
      planner.wanted request target <;> rfl

end Planner

end ComponentInstall.Planning
