import ComponentInstall.Proofs.Planning.Again
import ComponentInstall.Proofs.Request
import ComponentInstall.Proofs.Staging.Folders

/-!
# Plans that make sense

Planning can be asked about any version text, and a path of any spelling can be made. Still every plan
for a request that was made is one that can be acted upon. Its version and its package are named, since
a request fixes no empty text, a marker that says nothing settles nothing, and an empty selection is
refused. Its folder is there, since making folders succeeds only if their path can be followed
afterwards. What the plan says about the package, the manifest and the installed version goes with that
version.
-/

namespace ComponentInstall.Planning

open Disk Feed Staging

section

variable {planner : Planner} {source : CandidateSource} {request : Request} {target : Instance}
  {installed version : String}

/-- A version that is settled is named, if the request fixes no empty one. -/
theorem version_ne_empty_of_decision (shown : request.Shown)
    (settled : (decision planner source request target installed).1 = .ok version) :
    version ≠ "" := by
  obtain ⟨asked, decides⟩ := decides_of_settled settled
  cases decides with
  | given named fixed =>
    rintro rfl
    exact shown.version fixed
  | removed named free removal present => exact present
  | published unsettled unsourced answer something => exact something

theorem manifestUrl_eq_none_iff :
    planner.manifestUrl request target = none ↔ request.source ≠ none := by
  rw [Planner.manifestUrl]
  cases request.source <;> simp

theorem packageUrl_of_sourced {location : String} (sourced : request.source = some location) :
    planner.packageUrl request target version = location := by
  rw [Planner.packageUrl, sourced]

theorem packageUrl_of_unsourced (unsourced : request.source = none) :
    planner.packageUrl request target version =
      Location.package planner.template request.name version target
        (Location.packageName request.name target) := by
  rw [Planner.packageUrl, unsourced]

/-- The location of a package has slashes in it. -/
theorem package_ne_empty (template name version : String) (target : Instance) (file : String) :
    Location.package template name version target file ≠ "" := by
  intro empty
  have noChars := congrArg String.toList empty
  simp [Location.package] at noChars

/-- The package is named, if the request names none by an empty text. -/
theorem packageUrl_ne_empty (shown : request.Shown) :
    planner.packageUrl request target version ≠ "" := by
  cases location : request.source with
  | none =>
    rw [packageUrl_of_unsourced location]
    exact package_ne_empty _ _ _ _ _
  | some given =>
    rw [packageUrl_of_sourced location]
    rintro rfl
    exact shown.source location

/-- The folder of a named version can be entered once it was made, and what counts as a package is an
entry in it. -/
theorem leadsTo_of_made {root : Path} {name : String} {disk staged : State} (named : version ≠ "")
    (made : disk.createFolders (folder root name version) = (.ok (), staged)) :
    ∃ place, staged.tree.LeadsTo (folder root name version) place ∧
      (hasPackage root name version staged = true →
        ∃ child, staged.tree.find (child :: place) ≠ none) := by
  have succeeded : (disk.createFolders (folder root name version)).1 = .ok () := by rw [made]
  have present : (folder root name version).text ≠ "" := Path.join_ne_empty _ named
  obtain ⟨route, followed⟩ := (State.route_of_createFolders succeeded).2.resolve_left present
  obtain ⟨place, reached⟩ := State.reach_of_createFolders followed succeeded
  rw [made] at reached
  refine ⟨place, (Tree.leadsTo_iff followed).mpr reached, ?_⟩
  intro package
  exact ((hasPackage_iff staged followed reached).mp package).2

end

/-- A plan that makes sense on the disk behind it. -/
structure WellFormed (planner : Planner) (request : Request) (target : Instance) (plan : InstallPlan)
    (after : State) : Prop where
  version : plan.version ≠ ""
  package : plan.packageUrl ≠ ""
  /-- What is installed is the version of the plan, and not nothing. -/
  recognised : plan.alreadyInstalled = true ↔
    plan.installedVersion ≠ "" ∧ plan.installedVersion = plan.version
  unlisted : plan.manifestUrl = none ↔ request.source ≠ none
  /-- A package that the request names is taken as it is named. -/
  sourced : ∀ location, request.source = some location → plan.packageUrl = location
  /-- Any other package is the published one of the same version. -/
  published : request.source = none →
    plan.packageUrl = Location.package planner.template request.name plan.version target
      (Location.packageName request.name target)
  folder : plan.stagingPath = (planner.stagingRoot.join ⟨request.name⟩).join ⟨plan.version⟩
  /-- The staging folder is there, and it is not empty if a package counts as staged. -/
  staged : ∃ place, after.tree.LeadsTo plan.stagingPath place ∧
    (plan.packageStaged = true → ∃ child, after.tree.find (child :: place) ≠ none)

/-- Every plan for a request that was made makes sense, whatever the disk with its failing calls and the
candidate source. -/
theorem plan_wellFormed (planner : Planner) (source : CandidateSource) (request : Request)
    (target : Instance) (disk : State) (requested : request.Made) {plan : InstallPlan}
    (planned : (planner.plan source request target disk).outcome = .ok plan) :
    WellFormed planner request target plan (planner.plan source request target disk).disk := by
  generalize result : planner.plan source request target disk = done at planned ⊢
  obtain ⟨outcome, staged, asked⟩ := done
  cases planned
  obtain ⟨settled, made, assembled⟩ := made_of_planned result
  have shown := requested.shown
  have named : plan.version ≠ "" := version_ne_empty_of_decision shown settled
  have standing := leadsTo_of_made named made
  generalize plan.version = version at named assembled standing
  subst assembled
  constructor
  · exact named
  · exact packageUrl_ne_empty shown
  · rw [alreadyInstalled_assemble_iff]
    constructor
    · intro same
      exact ⟨same ▸ named, same⟩
    · exact fun recognised => recognised.2
  · exact manifestUrl_eq_none_iff
  · exact fun location sourced => packageUrl_of_sourced sourced
  · exact fun unsourced => packageUrl_of_unsourced unsourced
  · rfl
  · exact standing

/-- The empty version of the decoded request is none, so the published one is planned, and its folder
holds a package already. -/
theorem plan_wellFormed_of_decoded :
    let text := "\x7b\"name\":\"PVDriver\",\"version\":\"\",\"action\":\"Install\"\x7d"
    let request := Request.new "PVDriver" .install
    let disk := ((State.plain .empty).put ⟨"agent/components/PVDriver/9.0.0/package"⟩ (.text "")).2
    let planned := agentPlanner.plan (fun _ _ => .ok ["9.0.0"]) request .unknown disk
    Request.decoder.ofText text = .ok request ∧
      ∃ plan, planned.outcome = .ok plan ∧ plan.version = "9.0.0" ∧ plan.packageStaged = true ∧
        WellFormed agentPlanner request .unknown plan planned.disk := by
  intro text request disk planned
  have decoded : Request.decoder.ofText text = .ok request := by decide +kernel
  have done : planned.outcome.map (fun plan => (plan.version, plan.packageStaged))
      = .ok ("9.0.0", true) := by decide +kernel
  obtain ⟨plan, made, same⟩ := map_eq_ok_iff.mp done
  obtain ⟨version, package⟩ := Prod.mk.inj same
  exact ⟨decoded, plan, made, version, package,
    plan_wellFormed agentPlanner _ request .unknown disk (.ofText decoded) made⟩

end ComponentInstall.Planning
