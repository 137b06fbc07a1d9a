import ComponentInstall.Planning.Plan
import ComponentInstall.Proofs.Outcome

/-!
# What a plan is for

Before anything is staged it is decided which version a plan is for, or why there is no plan, and
which questions are asked on the way. `Decides` says how, without reference to the planner: one case
for each thing that can settle the matter, in terms of the request, of what the marker says and of
what the candidate source would answer. At most one case applies, so the cases are no mere
possibilities.

`plan_decides` says that planning decides like this, that it depends on the candidate source only
through the questions that it reports, and that a plan that has its version can fail in one way
only, which is that its folder cannot be made.
-/

namespace ComponentInstall.Planning

open Disk Feed Staging

/-- What a marker says: its text without the blanks around it, or nothing if it cannot be read. -/
inductive Says (disk : State) (path : Path) : String → Prop
  | held {text : String} (read : disk.readText path = .ok text) : Says disk path (Text.trim text)
  | unreadable {refusal : IoError} (failed : disk.readText path = .error refusal) :
      Says disk path ""

/-- The name of a request shows something. -/
def Named (request : Request) : Prop := ∃ c ∈ request.name.toList, Text.isBlank c = false

/-- Neither the request nor the marker settles a version. -/
structure Unsettled (request : Request) (installed : String) : Prop where
  named : Named request
  free : request.version = none
  notRemoved : request.action = .uninstall → installed = ""

section

variable (planner : Planner) (source : CandidateSource) (request : Request) (target : Instance)

/-- What is decided, and the questions that are asked for it. -/
inductive Decides (installed : String) : Except PlanError String → List Query → Prop
  | nameless (blank : ∀ c ∈ request.name.toList, Text.isBlank c = true) :
      Decides installed (.error (.request .missingName)) []
  | given {version : String} (named : Named request) (fixed : request.version = some version) :
      Decides installed (.ok version) []
  | removed (named : Named request) (free : request.version = none)
      (removal : request.action = .uninstall) (present : installed ≠ "") :
      Decides installed (.ok installed) []
  | bypassed {location : String} (unsettled : Unsettled request installed)
      (sourced : request.source = some location) :
      Decides installed (.error (.versionLookup (.sourceWithoutVersion request.name))) []
  | unlisted {cause : ListingError} (unsettled : Unsettled request installed)
      (unsourced : request.source = none) (answer : source request.name target = .error cause) :
      Decides installed (.error (.versionLookup (.listing cause))) [⟨request.name, target⟩]
  | unpublished {candidates : List String} (unsettled : Unsettled request installed)
      (unsourced : request.source = none) (answer : source request.name target = .ok candidates)
      (nothing : Version.latest planner.wanted candidates = "") :
      Decides installed (.error (.versionLookup (.noVersionFound request.name)))
        [⟨request.name, target⟩]
  | published {candidates : List String} (unsettled : Unsettled request installed)
      (unsourced : request.source = none) (answer : source request.name target = .ok candidates)
      (something : Version.latest planner.wanted candidates ≠ "") :
      Decides installed (.ok (Version.latest planner.wanted candidates)) [⟨request.name, target⟩]

/-- The decision that planning computes, and the questions that it asks for it. -/
def decision (installed : String) : Except PlanError String × List Query :=
  match request.validate with
  | .error cause => (.error (.request cause), [])
  | .ok () =>
    let about := targetBeside installed request
    ((about.resolve source planner.wanted request target).mapError .versionLookup,
      about.queries request target)

/-- The decision on a disk, where the marker of the request says what is installed. -/
def decisionOn (disk : State) : Except PlanError String × List Query :=
  decision planner source request target (current planner.installedRoot request.name disk)

end

theorem validate_of_named {request : Request} (named : Named request) :
    request.validate = .ok () := by
  obtain ⟨c, inside, shown⟩ := named
  have notBlank : Text.allBlank request.name = false := by
    rw [Text.allBlank, List.all_eq_false]
    exact ⟨c, inside, by simp [shown]⟩
  simp [Request.validate, notBlank]

theorem validate_of_nameless {request : Request}
    (blank : ∀ c ∈ request.name.toList, Text.isBlank c = true) :
    request.validate = .error .missingName := by
  have allBlank : Text.allBlank request.name = true := List.all_eq_true.mpr blank
  simp [Request.validate, allBlank]

theorem named_or_nameless (request : Request) :
    Named request ∨ ∀ c ∈ request.name.toList, Text.isBlank c = true := by
  by_cases blank : ∀ c ∈ request.name.toList, Text.isBlank c = true
  · exact Or.inr blank
  · left
    simpa [Named] using blank

/-- Where neither the request nor the marker settles a version, the request decides alone. -/
theorem targetBeside_of_unsettled {request : Request} {installed : String}
    (unsettled : Unsettled request installed) :
    targetBeside installed request = if request.source.isSome then .unsettled else .latest := by
  have notRemoved : ¬ (request.action = .uninstall ∧ request.version = none ∧ installed ≠ "") := by
    rintro ⟨removal, -, present⟩
    exact present (unsettled.notRemoved removal)
  rw [targetBeside, if_neg notRemoved, targetOf, unsettled.free]

section

variable {planner : Planner} {source : CandidateSource} {request : Request} {target : Instance}
  {installed : String}

/-- The cases describe what planning computes. -/
theorem decision_of_decides {decided : Except PlanError String} {asked : List Query}
    (decides : Decides planner source request target installed decided asked) :
    decision planner source request target installed = (decided, asked) := by
  cases decides with
  | nameless blank => simp [decision, validate_of_nameless blank]
  | given named fixed =>
    simp [decision, validate_of_named named, targetBeside, targetOf, fixed, Target.resolve,
      Target.queries]
  | removed named free removal present =>
    simp [decision, validate_of_named named, targetBeside, free, removal, present, Target.resolve,
      Target.queries]
  | bypassed unsettled sourced =>
    simp [decision, validate_of_named unsettled.named, targetBeside_of_unsettled unsettled, sourced,
      Target.resolve, Target.queries]
  | unlisted unsettled unsourced answer =>
    simp [decision, validate_of_named unsettled.named, targetBeside_of_unsettled unsettled,
      unsourced, answer, Target.resolve, Target.queries]
  | unpublished unsettled unsourced answer nothing =>
    simp [decision, validate_of_named unsettled.named, targetBeside_of_unsettled unsettled,
      unsourced, answer, nothing, Target.resolve, Target.queries]
  | published unsettled unsourced answer something =>
    simp [decision, validate_of_named unsettled.named, targetBeside_of_unsettled unsettled,
      unsourced, answer, something, Target.resolve, Target.queries]

variable (planner source request target installed)

/-- One of the cases always applies. -/
theorem exists_decides :
    ∃ decided asked, Decides planner source request target installed decided asked := by
  rcases named_or_nameless request with named | blank
  · cases version : request.version with
    | some version => exact ⟨_, _, .given named version⟩
    | none =>
      by_cases removed : request.action = .uninstall ∧ installed ≠ ""
      · exact ⟨_, _, .removed named version removed.1 removed.2⟩
      · have unsettled : Unsettled request installed :=
          ⟨named, version, fun removal => by
            by_cases absent : installed = ""
            · exact absent
            · exact absurd ⟨removal, absent⟩ removed⟩
        cases location : request.source with
        | some location => exact ⟨_, _, .bypassed unsettled location⟩
        | none =>
          cases answer : source request.name target with
          | error cause => exact ⟨_, _, .unlisted unsettled location answer⟩
          | ok candidates =>
            by_cases nothing : Version.latest planner.wanted candidates = ""
            · exact ⟨_, _, .unpublished unsettled location answer nothing⟩
            · exact ⟨_, _, .published unsettled location answer nothing⟩
  · exact ⟨_, _, .nameless blank⟩

theorem decides_decision :
    Decides planner source request target installed
      (decision planner source request target installed).1
      (decision planner source request target installed).2 := by
  obtain ⟨decided, asked, decides⟩ := exists_decides planner source request target installed
  rw [decision_of_decides decides]
  exact decides

/-- Only the answers to the questions that are asked matter. -/
theorem decision_of_same_answers {other : CandidateSource}
    (same : ∀ query ∈ (decision planner source request target installed).2,
      other query.name query.target = source query.name query.target) :
    decision planner other request target installed =
      decision planner source request target installed := by
  have decides := decides_decision planner source request target installed
  generalize decision planner source request target installed = result at same decides
  obtain ⟨decided, asked⟩ := result
  apply decision_of_decides
  cases decides with
  | nameless blank => exact .nameless blank
  | given named fixed => exact .given named fixed
  | removed named free removal present => exact .removed named free removal present
  | bypassed unsettled sourced => exact .bypassed unsettled sourced
  | unlisted unsettled unsourced answer =>
    exact .unlisted unsettled unsourced ((same _ List.mem_cons_self).trans answer)
  | unpublished unsettled unsourced answer nothing =>
    exact .unpublished unsettled unsourced ((same _ List.mem_cons_self).trans answer) nothing
  | published unsettled unsourced answer something =>
    exact .published unsettled unsourced ((same _ List.mem_cons_self).trans answer) something

/-- Without a version planning ends with the decision. -/
theorem plan_of_refused {disk : State} {error : PlanError}
    (refused : (decisionOn planner source request target disk).1 = .error error) :
    planner.plan source request target disk =
      ⟨.error error, disk, (decisionOn planner source request target disk).2⟩ := by
  simp only [Planner.plan_eq, decisionOn, decision] at refused ⊢
  cases validated : request.validate with
  | error cause =>
    rw [validated] at refused
    cases refused
    rfl
  | ok named =>
    simp only [validated] at refused ⊢
    cases resolved : (targetBeside (current planner.installedRoot request.name disk)
        request).resolve source planner.wanted request target with
    | error cause =>
      rw [resolved] at refused
      cases refused
      rfl
    | ok version =>
      rw [resolved] at refused
      cases refused

/-- With a version planning goes on to stage it. -/
theorem plan_of_settled {disk : State} {version : String}
    (settled : (decisionOn planner source request target disk).1 = .ok version) :
    planner.plan source request target disk =
      ⟨(planner.stage request target (current planner.installedRoot request.name disk) version
          disk).1,
        (planner.stage request target (current planner.installedRoot request.name disk) version
          disk).2,
        (decisionOn planner source request target disk).2⟩ := by
  simp only [Planner.plan_eq, decisionOn, decision] at settled ⊢
  cases validated : request.validate with
  | error cause =>
    rw [validated] at settled
    cases settled
  | ok named =>
    simp only [validated] at settled ⊢
    cases resolved : (targetBeside (current planner.installedRoot request.name disk)
        request).resolve source planner.wanted request target with
    | error cause =>
      rw [resolved] at settled
      cases settled
    | ok found =>
      rw [resolved] at settled
      cases settled
      rfl

theorem asked_plan (disk : State) :
    (planner.plan source request target disk).asked =
      (decisionOn planner source request target disk).2 := by
  cases decided : (decisionOn planner source request target disk).1 with
  | error error => rw [plan_of_refused planner source request target decided]
  | ok version => rw [plan_of_settled planner source request target decided]

/-- The candidate source only matters for the decision. -/
theorem plan_of_same_decision {other : CandidateSource} {disk : State}
    (same : decisionOn planner other request target disk =
      decisionOn planner source request target disk) :
    planner.plan other request target disk = planner.plan source request target disk := by
  cases decided : (decisionOn planner source request target disk).1 with
  | error error =>
    rw [plan_of_refused planner source request target decided,
      plan_of_refused planner other request target (same ▸ decided), same]
  | ok version =>
    rw [plan_of_settled planner source request target decided,
      plan_of_settled planner other request target (same ▸ decided), same]

/-- A source that answers the reported questions alike leads to the same result. -/
theorem plan_of_same_answers {other : CandidateSource} (disk : State)
    (same : ∀ query ∈ (planner.plan source request target disk).asked,
      other query.name query.target = source query.name query.target) :
    planner.plan other request target disk = planner.plan source request target disk := by
  rw [asked_plan] at same
  apply plan_of_same_decision
  exact decision_of_same_answers planner source request target _ same

/-- Staging fails exactly if the folder cannot be made. -/
theorem stage_error_iff (version : String) (disk : State) (error : PlanError) :
    (planner.stage request target installed version disk).1 = .error error ↔
      ∃ cause, (disk.createFolders (folder planner.stagingRoot request.name version)).1
          = .error cause ∧
        error = .staging (.createFolder (folder planner.stagingRoot request.name version) cause) := by
  simp only [Planner.stage_eq, createFolder_eq]
  obtain ⟨answer, after⟩ := disk.createFolders (folder planner.stagingRoot request.name version)
  cases answer <;> simp [eq_comm]

/-- The plan is put together once the folder is there. -/
theorem eq_assemble_of_stage {version : String} {disk : State} {plan : InstallPlan}
    (staged : (planner.stage request target installed version disk).1 = .ok plan) :
    plan = planner.assemble request target installed version
      (hasPackage planner.stagingRoot request.name version
        (disk.createFolders (folder planner.stagingRoot request.name version)).2) := by
  simp only [Planner.stage_eq, createFolder_eq] at staged
  generalize disk.createFolders (folder planner.stagingRoot request.name version) = result at *
  obtain ⟨answer, after⟩ := result
  cases answer with
  | error cause => cases staged
  | ok done =>
    cases staged
    rfl

/-- Where the folder can be made, staging gives a plan. -/
theorem stage_of_made {version : String} {disk staged : State}
    (made : disk.createFolders (folder planner.stagingRoot request.name version) = (.ok (), staged)) :
    planner.stage request target installed version disk =
      (.ok (planner.assemble request target installed version
        (hasPackage planner.stagingRoot request.name version staged)), staged) := by
  simp only [Planner.stage_eq, createFolder_eq, made]

theorem made_of_stage {version : String} {disk staged : State} {plan : InstallPlan}
    (planned : planner.stage request target installed version disk = (.ok plan, staged)) :
    disk.createFolders (folder planner.stagingRoot request.name version) = (.ok (), staged) := by
  simp only [Planner.stage_eq, createFolder_eq] at planned
  generalize disk.createFolders (folder planner.stagingRoot request.name version) = result at planned
  obtain ⟨answer, after⟩ := result
  cases answer with
  | error cause => cases planned
  | ok done =>
    cases planned
    rfl

/-- Of the disk, staging only makes the folder. -/
theorem disk_stage (version : String) (disk : State) :
    (planner.stage request target installed version disk).2 =
      (disk.createFolders (folder planner.stagingRoot request.name version)).2 := by
  simp only [Planner.stage_eq, createFolder_eq]
  obtain ⟨answer, after⟩ := disk.createFolders (folder planner.stagingRoot request.name version)
  cases answer <;> rfl

end

/-- A plan was made as decided. -/
structure PlannedAs (planner : Planner) (source : CandidateSource) (request : Request)
    (target : Instance) (disk : State) (installed : String) (decided : Except PlanError String)
    (planned : Planned) : Prop where
  reads : Says disk (planner.installedRoot.join ⟨request.name⟩) installed
  decides : Decides planner source request target installed decided planned.asked
  /-- Nothing else could have been decided or asked. -/
  only : ∀ other asked, Decides planner source request target installed other asked →
    other = decided ∧ asked = planned.asked
  /-- A source that answers the reported questions alike leads to the same result. -/
  asks : ∀ other : CandidateSource,
    (∀ query ∈ planned.asked, other query.name query.target = source query.name query.target) →
    planner.plan other request target disk = planned
  /-- Without a version there is no plan, for the reason that was decided. -/
  refused : ∀ error, decided = .error error → planned.outcome = .error error
  /-- With a version there is a plan for it unless its folder cannot be made. -/
  staged : ∀ version, decided = .ok version →
    (∀ error, planned.outcome = .error error ↔
      ∃ cause, (disk.createFolders
          ((planner.stagingRoot.join ⟨request.name⟩).join ⟨version⟩)).1 = .error cause ∧
        error = .staging (.createFolder
          ((planner.stagingRoot.join ⟨request.name⟩).join ⟨version⟩) cause)) ∧
    ∀ plan, planned.outcome = .ok plan → plan.version = version

theorem says_current (root : Path) (name : String) (disk : State) :
    Says disk (marker root name) (current root name disk) := by
  rw [current_eq]
  cases read : disk.readText (marker root name) with
  | ok text => exact .held read
  | error refusal => exact .unreadable read

/-- Planning decides exactly as specified, whatever the request, the disk with its failing calls and
the candidate source. -/
theorem plan_decides (planner : Planner) (source : CandidateSource) (request : Request)
    (target : Instance) (disk : State) :
    ∃ installed decided, PlannedAs planner source request target disk installed decided
      (planner.plan source request target disk) := by
  refine ⟨current planner.installedRoot request.name disk,
    (decisionOn planner source request target disk).1,
    says_current planner.installedRoot request.name disk, ?_, ?_, ?_, ?_, ?_⟩
  · rw [asked_plan]
    exact decides_decision planner source request target _
  · intro other asked alsoDecides
    rw [asked_plan, decisionOn, decision_of_decides alsoDecides]
    exact ⟨rfl, rfl⟩
  · intro other same
    exact plan_of_same_answers planner source request target disk same
  · intro error refused
    rw [plan_of_refused planner source request target refused]
  · intro version settled
    rw [plan_of_settled planner source request target settled]
    refine ⟨stage_error_iff planner request target _ version disk, ?_⟩
    intro plan staged
    rw [eq_assemble_of_stage planner request target _ staged]
    rfl

end ComponentInstall.Planning
