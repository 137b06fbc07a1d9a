import ComponentInstall.Proofs.Planning.Settlement
import ComponentInstall.Proofs.Staging.Recording

/-!
# Plans that are made again

A plan leaves the folder of its version behind. As long as that folder is there, staging the same
version again succeeds and changes nothing, so planning again depends on one thing only, which is the
version that is settled this time.

If nothing happened in between, the version is the same and so is the whole plan. Only the marker could
tell the difference, and new folders do not change what it says if its path has no two dots.

If the version of the plan was recorded as installed, the same request is about the same version again,
and an uninstall is about it too, without asking anybody. The marker gives the version back without the
blanks around it. A request may fix a version that has some, and then the version that is planned is not
the one that is installed.
-/

namespace ComponentInstall.Planning

open Disk Feed Staging

section

variable {planner : Planner} {source : CandidateSource} {request : Request} {target : Instance}
  {disk staged : State} {installed version : String} {plan : InstallPlan} {asked : List Query}

theorem version_assemble (planner : Planner) (request : Request) (target : Instance)
    (installed version : String) (package : Bool) :
    (planner.assemble request target installed version package).version = version := rfl

theorem installedVersion_assemble (planner : Planner) (request : Request) (target : Instance)
    (installed version : String) (package : Bool) :
    (planner.assemble request target installed version package).installedVersion = installed := rfl

theorem alreadyInstalled_assemble_iff {package : Bool} :
    (planner.assemble request target installed version package).alreadyInstalled = true ↔
      installed = version := decide_eq_true_iff

/-- A plan is for the version that is settled, and the folder of that version is there. -/
theorem made_of_planned
    (planned : planner.plan source request target disk = ⟨.ok plan, staged, asked⟩) :
    (decisionOn planner source request target disk).1 = .ok plan.version ∧
      disk.createFolders (folder planner.stagingRoot request.name plan.version) = (.ok (), staged) ∧
      plan = planner.assemble request target (current planner.installedRoot request.name disk)
        plan.version (hasPackage planner.stagingRoot request.name plan.version staged) := by
  cases decided : (decisionOn planner source request target disk).1 with
  | error error =>
    rw [plan_of_refused planner source request target decided] at planned
    cases planned
  | ok version =>
    rw [plan_of_settled planner source request target decided] at planned
    have stagedPlan : planner.stage request target
        (current planner.installedRoot request.name disk) version disk = (.ok plan, staged) :=
      Prod.ext (congrArg Planned.outcome planned) (congrArg Planned.disk planned)
    have made := made_of_stage planner request target _ stagedPlan
    have assembled : plan = planner.assemble request target
        (current planner.installedRoot request.name disk) version
        (hasPackage planner.stagingRoot request.name version staged) :=
      Except.ok.inj
        (congrArg Prod.fst (stagedPlan.symm.trans (stage_of_made planner request target _ made)))
    obtain rfl : plan.version = version := congrArg InstallPlan.version assembled
    exact ⟨rfl, made, assembled⟩

/-- Where the folder of the settled version was made, planning succeeds and changes nothing. -/
theorem plan_of_made {later : State}
    (made : disk.createFolders (folder planner.stagingRoot request.name version) = (.ok (), staged))
    (continues : staged.Continues later)
    (settled : (decisionOn planner source request target later).1 = .ok version) :
    planner.plan source request target later =
      ⟨.ok (planner.assemble request target (current planner.installedRoot request.name later) version
          (hasPackage planner.stagingRoot request.name version later)),
        later, (decisionOn planner source request target later).2⟩ := by
  have madeAgain := State.createFolders_again made continues
  rw [plan_of_settled planner source request target settled,
    stage_of_made planner request target _ madeAgain]

end

/-- Planning is idempotent if the path of the marker has no two dots: on the disk that a plan leaves
behind, planning again gives the same plan, asks the same questions and changes nothing. A tree has no
symbolic links: with them the new folder could lie on the way to the marker. -/
theorem plan_again (planner : Planner) (source : CandidateSource) (request : Request)
    (target : Instance) (disk : State) (rootStraight : ['.', '.'] ∉ planner.installedRoot.segments)
    (nameStraight : ['.', '.'] ∉ (Disk.Path.mk request.name).segments) {plan : InstallPlan}
    {after : State} {asked : List Query}
    (planned : planner.plan source request target disk = ⟨.ok plan, after, asked⟩) :
    planner.plan source request target after = ⟨.ok plan, after, asked⟩ := by
  obtain ⟨settled, made, assembled⟩ := made_of_planned planned
  have grown := disk.createFolders_grows (folder planner.stagingRoot request.name plan.version)
  simp only [made] at grown
  obtain ⟨surroundings, grown⟩ := grown
  obtain ⟨names, straight⟩ := Path.way_join_of_straight rootStraight nameStraight
  have installed : current planner.installedRoot request.name after
      = current planner.installedRoot request.name disk := by
    rw [surroundings]
    exact current_of_gains grown.gains straight
  have decisions : decisionOn planner source request target after
      = decisionOn planner source request target disk := by
    rw [decisionOn, decisionOn, installed]
  have asks : asked = (decisionOn planner source request target disk).2 := by
    rw [← asked_plan, planned]
  rw [plan_of_made made (.refl after) (decisions ▸ settled), installed, decisions, ← assembled, asks]

theorem eq_of_outcome {planned : Planned} {plan : InstallPlan} (succeeded : planned.outcome = .ok plan) :
    planned = ⟨.ok plan, planned.disk, planned.asked⟩ := by
  rw [← succeeded]

theorem planned_of_version {planned : Planned} {version : String}
    (done : planned.outcome.map InstallPlan.version = .ok version) :
    ∃ plan, planned = ⟨.ok plan, planned.disk, planned.asked⟩ ∧ plan.version = version := by
  cases succeeded : planned.outcome with
  | error error =>
    rw [succeeded] at done
    cases done
  | ok plan =>
    rw [succeeded] at done
    exact ⟨plan, eq_of_outcome succeeded, Except.ok.inj done⟩

/-- A planner below a base of one name. -/
def agentPlanner : Planner :=
  ⟨⟨"agent/components"⟩, ⟨"agent/installed"⟩, Location.defaultTemplate, none⟩

/-- The version climbs out of the folder that it enters first. -/
theorem plan_again_of_climbing_version :
    let request := (Request.new "PVDriver" .install).withVersion "old/../../9000.0.0"
    let first := agentPlanner.plan (fun _ _ => .ok []) request .unknown (State.plain .empty)
    first.outcome.isOk = true ∧
      agentPlanner.plan (fun _ _ => .ok []) request .unknown first.disk = first := by
  intro request first
  have done : first.outcome.map InstallPlan.version = .ok "old/../../9000.0.0" := by decide +kernel
  obtain ⟨plan, planned, -⟩ := planned_of_version done
  have again := plan_again agentPlanner _ request .unknown _ (by decide) (by decide) planned
  exact ⟨by rw [planned]; rfl, again.trans planned.symm⟩

section

variable {planner : Planner} {source : CandidateSource} {request : Request} {target : Instance}
  {disk staged after : State} {plan : InstallPlan} {asked : List Query}

/-- After the version of a plan was recorded, it is what is installed, but for the blanks around it. -/
theorem current_of_planned
    (planned : planner.plan source request target disk = ⟨.ok plan, staged, asked⟩)
    (recorded : record planner.installedRoot request.name plan.version staged = (.ok (), after))
    (readable : disk.faults .readText (marker planner.installedRoot request.name) = none) :
    current planner.installedRoot request.name after = Text.trim plan.version := by
  obtain ⟨-, made, -⟩ := made_of_planned planned
  have continues := disk.continues_createFolders
    (folder planner.stagingRoot request.name plan.version)
  rw [made] at continues
  have readableStaged : staged.faults .readText (marker planner.installedRoot request.name)
      = none := by
    rw [continues.faults]
    exact readable
  exact current_of_record readableStaged recorded

/-- A recorded plan is recognised: the same request gets the same version again, and it counts as
installed exactly if it has no blanks around it. It has none unless the request fixes the version. -/
theorem recorded_plan_recognised
    (readable : disk.faults .readText (planner.installedRoot.join ⟨request.name⟩) = none)
    (planned : planner.plan source request target disk = ⟨.ok plan, staged, asked⟩)
    (recorded : record planner.installedRoot request.name plan.version staged = (.ok (), after)) :
    ∃ again, (planner.plan source request target after).outcome = .ok again ∧
      again.version = plan.version ∧ again.installedVersion = Text.trim plan.version ∧
      (again.alreadyInstalled = true ↔ Text.trim plan.version = plan.version) ∧
      (request.version = none → again.alreadyInstalled = true) := by
  have installed := current_of_planned planned recorded readable
  obtain ⟨settled, made, -⟩ := made_of_planned planned
  have trimmed := trim_current planner.installedRoot request.name disk
  have continues := continues_record planner.installedRoot request.name plan.version staged
  rw [recorded] at continues
  have settledAgain : (decisionOn planner source request target after).1 = .ok plan.version := by
    rw [decisionOn, installed]
    exact settled_again settled trimmed
  have planAgain := plan_of_made made continues settledAgain
  rw [installed] at planAgain
  have outcome := congrArg Planned.outcome planAgain
  refine ⟨_, outcome, version_assemble .., installedVersion_assemble ..,
    alreadyInstalled_assemble_iff, ?_⟩
  intro free
  exact alreadyInstalled_assemble_iff.mpr (trim_of_decision settled free trimmed)

theorem recorded_plan_recognised_of_inner_blank :
    let request := (Request.new "PVDriver" .install).withVersion "1.0.0 beta"
    let first := agentPlanner.plan (fun _ _ => .ok []) request .unknown (State.plain .empty)
    let recorded := record agentPlanner.installedRoot "PVDriver" "1.0.0 beta" first.disk
    first.outcome.isOk = true ∧ recorded.1 = .ok () ∧
      ∃ again, (agentPlanner.plan (fun _ _ => .ok []) request .unknown recorded.2).outcome
          = .ok again ∧
        again.version = "1.0.0 beta" ∧ again.alreadyInstalled = true := by
  intro request first recorded
  have done : first.outcome.map InstallPlan.version = .ok "1.0.0 beta" := by decide +kernel
  have succeeded : recorded.1 = .ok () := by decide +kernel
  obtain ⟨plan, planned, version⟩ := planned_of_version done
  have recordedPlan : record agentPlanner.installedRoot request.name plan.version first.disk
      = (.ok (), recorded.2) := by
    rw [version]
    exact Prod.ext succeeded rfl
  obtain ⟨again, outcome, same, -, recognised, -⟩ :=
    recorded_plan_recognised rfl planned recordedPlan
  rw [version] at same recognised
  exact ⟨by rw [planned]; rfl, succeeded, again, outcome, same, recognised.mpr (by decide +kernel)⟩

/-- A version that ends in a blank is planned as it is fixed, but installed without the blank. -/
theorem recorded_plan_unrecognised_of_outer_blank :
    let request := (Request.new "PVDriver" .install).withVersion "1.0.0 "
    ¬ ∀ plan staged asked after,
      agentPlanner.plan (fun _ _ => .ok []) request .unknown (State.plain .empty)
        = ⟨.ok plan, staged, asked⟩ →
      record agentPlanner.installedRoot request.name plan.version staged = (.ok (), after) →
      ∃ again, (agentPlanner.plan (fun _ _ => .ok []) request .unknown after).outcome = .ok again ∧
        again.version = plan.version ∧ again.alreadyInstalled = true := by
  intro request recognised
  let first := agentPlanner.plan (fun _ _ => .ok []) request .unknown (State.plain .empty)
  let recorded := record agentPlanner.installedRoot "PVDriver" "1.0.0 " first.disk
  have done : first.outcome.map InstallPlan.version = .ok "1.0.0 " := by decide +kernel
  have succeeded : recorded.1 = .ok () := by decide +kernel
  have unrecognised : (agentPlanner.plan (fun _ _ => .ok []) request .unknown
      recorded.2).outcome.map InstallPlan.alreadyInstalled = .ok false := by decide +kernel
  obtain ⟨plan, planned, version⟩ := planned_of_version done
  have recordedPlan : record agentPlanner.installedRoot request.name plan.version first.disk
      = (.ok (), recorded.2) := by
    rw [version]
    exact Prod.ext succeeded rfl
  obtain ⟨again, outcome, -, installed⟩ := recognised plan _ _ _ planned recordedPlan
  rw [outcome] at unrecognised
  cases installed.symm.trans (Except.ok.inj unrecognised)

/-- An uninstall is about the version that an install resolved and that was recorded, whatever the
candidate source would answer by then. It finds the version installed and its folder staged at the same
path, and unless it names its package by itself it finds the same locations. -/
theorem uninstall_targets_installed {name : String}
    (readable : disk.faults .readText (planner.installedRoot.join ⟨name⟩) = none)
    (planned : planner.plan source (Request.new name .install) target disk
      = ⟨.ok plan, staged, asked⟩)
    (recorded : record planner.installedRoot name plan.version staged = (.ok (), after))
    (later : CandidateSource) (location : Option String) :
    ∃ removal, planner.plan later ⟨name, none, .uninstall, location⟩ target after
        = ⟨.ok removal, after, []⟩ ∧
      removal.version = plan.version ∧ removal.stagingPath = plan.stagingPath ∧
      removal.installedVersion = plan.version ∧ removal.alreadyInstalled = true ∧
      (location = none →
        removal.packageUrl = plan.packageUrl ∧ removal.manifestUrl = plan.manifestUrl) := by
  obtain ⟨settled, made, assembled⟩ := made_of_planned planned
  have trimmed : Text.trim plan.version = plan.version :=
    trim_of_decision settled rfl (trim_current planner.installedRoot name disk)
  have installed : current planner.installedRoot name after = plan.version :=
    (current_of_planned planned recorded readable).trans trimmed
  have continues := continues_record planner.installedRoot name plan.version staged
  simp only [recorded] at continues
  obtain ⟨named, present⟩ := published_of_install settled
  have decided : decisionOn planner later ⟨name, none, .uninstall, location⟩ target after
      = (.ok plan.version, []) := by
    rw [decisionOn, installed]
    exact decision_of_decides (.removed named rfl rfl present)
  have removes : planner.plan later ⟨name, none, .uninstall, location⟩ target after = _ :=
    plan_of_made made continues (congrArg Prod.fst decided)
  rw [decided, installed] at removes
  refine ⟨_, removes, version_assemble .., ?_, installedVersion_assemble ..,
    alreadyInstalled_assemble_iff.mpr rfl, ?_⟩
  · rw [assembled]
    rfl
  · rintro rfl
    rw [assembled]
    exact ⟨rfl, rfl⟩

/-- The candidate source publishes nothing any more. -/
theorem uninstall_targets_installed_of_withdrawn :
    let first := agentPlanner.plan (fun _ _ => .ok ["9.0.0", "10.0.0", "latest"])
      (Request.new "PVDriver" .install) .unknown (State.plain .empty)
    let recorded := record agentPlanner.installedRoot "PVDriver" "10.0.0" first.disk
    first.outcome.isOk = true ∧ recorded.1 = .ok () ∧
      ∃ removal, agentPlanner.plan (fun name _ => .error (.notFound name))
          ⟨"PVDriver", none, .uninstall, none⟩ .unknown recorded.2 = ⟨.ok removal, recorded.2, []⟩ ∧
        removal.version = "10.0.0" ∧ removal.alreadyInstalled = true := by
  intro first recorded
  have done : first.outcome.map InstallPlan.version = .ok "10.0.0" := by decide +kernel
  have succeeded : recorded.1 = .ok () := by decide +kernel
  obtain ⟨plan, planned, version⟩ := planned_of_version done
  have recordedPlan : record agentPlanner.installedRoot "PVDriver" plan.version first.disk
      = (.ok (), recorded.2) := by
    rw [version]
    exact Prod.ext succeeded rfl
  obtain ⟨removal, outcome, same, -, -, installed, -⟩ := uninstall_targets_installed rfl planned
    recordedPlan (fun name _ => .error (.notFound name)) none
  exact ⟨by rw [planned]; rfl, succeeded, removal, outcome, same.trans version, installed⟩

end

end ComponentInstall.Planning
