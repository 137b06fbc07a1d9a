import ComponentInstall.Proofs.CommandLine.Log

/-!
# How a plan command ends

A `plan` command ends in one of five ways, and `Ends` says when it does in which: one case for each, in
terms of the configuration, the log, the spelling of the action and the result of planning. The cases
exclude each other, and one of them always applies.

A command that fails prints nothing. It leaves the disk alone until it knows its configuration, then
opens its log, and touches nothing else before it has a version. So whatever fails but the staging of a
version leaves no more than the log and the folders around it. An action of another spelling ends the
command before anything is asked.

Nothing is assumed about the environment: the variables may be unset, and all directories may be the
same. Nor is anything assumed about the network, which may never answer, or about what is written to the
log.
-/

namespace ComponentInstall.CommandLine

open Feed Planning

open Disk (State Path)

/-- The ways in which a `plan` command ends. -/
inductive Exit
  /-- The configuration does not load. -/
  | misconfigured (cause : ConfigError)
  /-- The log cannot be opened in its folder. -/
  | brokenOff (cause : Disk.IoError)
  /-- The action is none. -/
  | misspelt
  | unplanned (cause : PlanError)
  | planned (plan : InstallPlan)

def Exit.code : Exit → Nat
  | .planned _ => 0
  | .brokenOff _ => 101
  | _ => 1

/-- The log is open, or its folder could not be made; in both cases the command is run. -/
def LogSettled (environment : Environment) (journal : Journal) (disk : State) : Prop :=
  ∀ cause, (openLog environment journal.early disk).1 ≠ .error (.file cause)

section

variable (environment : Environment) (network : Network) (journal : Journal) (path : Option Path)
  (options : PlanOptions) (disk : State)

/-- The result of planning on the disk behind the log. -/
def plannedBehindLog (config : Config) (request : Request) : FeedPlanned :=
  (plannerOf config environment options).planFromFeed network request options.target
    (openLog environment journal.early disk).2

/-- When a `plan` command ends in which way. -/
inductive Ends : Exit → Prop
  | misconfigured {cause : ConfigError} (loading : configOf path disk = .error cause) :
      Ends (.misconfigured cause)
  | brokenOff {config : Config} {cause : Disk.IoError} (loading : configOf path disk = .ok config)
      (opening : (openLog environment journal.early disk).1 = .error (.file cause)) :
      Ends (.brokenOff cause)
  | misspelt {config : Config} (loading : configOf path disk = .ok config)
      (settled : LogSettled environment journal disk)
      (spelling : options.action ≠ "Install" ∧ options.action ≠ "Uninstall") : Ends .misspelt
  | unplanned {config : Config} {request : Request} {cause : PlanError}
      (loading : configOf path disk = .ok config) (settled : LogSettled environment journal disk)
      (requested : options.request = .ok request)
      (planning : (plannedBehindLog environment network journal options disk config request).outcome
        = .error cause) : Ends (.unplanned cause)
  | planned {config : Config} {request : Request} {plan : InstallPlan}
      (loading : configOf path disk = .ok config) (settled : LogSettled environment journal disk)
      (requested : options.request = .ok request)
      (planning : (plannedBehindLog environment network journal options disk config request).outcome
        = .ok plan) : Ends (.planned plan)

/-- The way in which a `plan` command ends, as the stages of a run decide it. -/
def exitOf : Exit :=
  match configOf path disk with
  | .error cause => .misconfigured cause
  | .ok config =>
    match (openLog environment journal.early disk).1 with
    | .error (.file cause) => .brokenOff cause
    | _ =>
      match options.request with
      | .error _ => .misspelt
      | .ok request =>
        match (plannedBehindLog environment network journal options disk config request).outcome with
        | .error cause => .unplanned cause
        | .ok plan => .planned plan

end

theorem request_error_iff {options : PlanOptions} {cause : RequestError} :
    options.request = .error cause ↔
      (options.action ≠ "Install" ∧ options.action ≠ "Uninstall") ∧
        cause = .invalidAction options.action := by
  rw [PlanOptions.request, Action.ofText]
  by_cases install : options.action = "Install"
  · simp [install]
  by_cases uninstall : options.action = "Uninstall"
  · simp [uninstall]
  simp [install, uninstall, eq_comm]

theorem spelt_of_requested {options : PlanOptions} {request : Request}
    (requested : options.request = .ok request) :
    ¬ (options.action ≠ "Install" ∧ options.action ≠ "Uninstall") := by
  intro spelling
  cases requested.symm.trans (request_error_iff.mpr ⟨spelling, rfl⟩)

section

variable {environment : Environment} {network : Network} {journal : Journal} {path : Option Path}
  {options : PlanOptions} {disk : State}

theorem perform_of_brokenOff {invocation : Invocation} {config : Config} {cause : Disk.IoError}
    (loading : configOf invocation.config disk = .ok config)
    (opening : (openLog environment journal.early disk).1 = .error (.file cause)) :
    perform environment network journal invocation disk =
      ⟨brokenOff cause, (openLog environment journal.early disk).2⟩ := by
  rw [perform_eq, loading]
  dsimp only
  generalize openLog environment journal.early disk = opened at opening ⊢
  obtain ⟨answer, after⟩ := opened
  cases opening
  rfl

/-- A settled log may add a warning to what the command tells, and may have lines written to it behind
the command. -/
theorem perform_of_logSettled (network : Network) (command : Command) {config : Config}
    (loading : configOf path disk = .ok config) (settled : LogSettled environment journal disk) :
    let outcome := runCommand config environment network command
      (openLog environment journal.early disk).2
    ∃ warnings after, perform environment network journal ⟨path, command⟩ disk =
        ⟨{ outcome with errors := warnings ++ outcome.errors }, after⟩ ∧
      LogFootprint environment outcome.disk.tree after.tree := by
  rw [perform_eq, loading]
  dsimp only
  rw [LogSettled] at settled
  generalize openLog environment journal.early disk = opened at settled ⊢
  obtain ⟨answer, around⟩ := opened
  cases answer with
  | ok done => exact ⟨"", _, by simp, footprint_append environment _ journal.late⟩
  | error cause =>
    cases cause with
    | folder cause => exact ⟨warning cause, _, rfl, .refl environment _⟩
    | file cause => exact absurd rfl (settled cause)

theorem runPlan_of_misspelt {config : Config}
    (spelling : options.action ≠ "Install" ∧ options.action ≠ "Uninstall") :
    runPlan config environment network options disk =
      ⟨failed (RequestError.invalidAction options.action).message [], disk⟩ := by
  rw [runPlan_eq, request_error_iff.mpr ⟨spelling, rfl⟩]

/-- Without a plan the reasons are told and nothing is printed. -/
theorem runPlan_of_unplanned {config : Config} {request : Request} {cause : PlanError}
    (requested : options.request = .ok request)
    (planning : ((plannerOf config environment options).planFromFeed network request options.target
      disk).outcome = .error cause) :
    ∃ message reasons received, runPlan config environment network options disk =
      ⟨{ failed message reasons with received := received },
        ((plannerOf config environment options).planFromFeed network request options.target
          disk).disk⟩ := by
  simp only [runPlan_eq, requested, planning]
  exact ⟨_, _, _, rfl⟩

/-- A plan is all that is told. -/
theorem runPlan_of_planned {config : Config} {request : Request} {plan : InstallPlan}
    (requested : options.request = .ok request)
    (planning : ((plannerOf config environment options).planFromFeed network request options.target
      disk).outcome = .ok plan) :
    ∃ received after, runPlan config environment network options disk =
      ⟨{ success (plan.toJson.pretty ++ "\n") with received := received }, after⟩ := by
  simp only [runPlan_eq, requested, planning]
  exact ⟨_, _, rfl⟩

/-- Planning that fails before a version is staged leaves the disk alone. -/
theorem disk_planFromFeed {planner : Planner} {request : Request} {target : Instance}
    {cause : PlanError}
    (planning : (planner.planFromFeed network request target disk).outcome = .error cause)
    (unstaged : ∀ staging, cause ≠ .staging staging) :
    (planner.planFromFeed network request target disk).disk = disk := by
  have footprint := plan_footprint planner (source planner.template network) request target disk
  have outcome : (planner.plan (source planner.template network) request target disk).outcome
      = .error cause := planning
  rw [outcome] at footprint
  cases cause with
  | request cause => exact footprint
  | versionLookup cause => exact footprint
  | staging cause => exact absurd rfl (unstaged cause)

variable (environment network journal path options disk)

/-- Every run ends in one of the ways. -/
theorem exists_ends : ∃ exit, Ends environment network journal path options disk exit := by
  cases loading : configOf path disk with
  | error cause => exact ⟨_, .misconfigured loading⟩
  | ok config =>
    by_cases settled : LogSettled environment journal disk
    · cases requested : options.request with
      | error cause => exact ⟨_, .misspelt loading settled (request_error_iff.mp requested).1⟩
      | ok request =>
        cases planning :
          (plannedBehindLog environment network journal options disk config request).outcome with
        | error cause => exact ⟨_, .unplanned loading settled requested planning⟩
        | ok plan => exact ⟨_, .planned loading settled requested planning⟩
    · obtain ⟨cause, opening⟩ :
          ∃ cause, (openLog environment journal.early disk).1 = .error (.file cause) := by
        simpa [LogSettled] using settled
      exact ⟨_, .brokenOff loading opening⟩

variable {environment network journal path options disk}

end

/-- A `plan` command that ended as it should on the disk before it. -/
structure EndsCleanly (environment : Environment) (options : PlanOptions) (before : State)
    (exit : Exit) (outcome : Outcome) : Prop where
  code : outcome.exitCode = exit.code
  /-- A command that fails prints nothing. -/
  silent : exit.code ≠ 0 → outcome.output = ""
  /-- Without a configuration not even the log is made. -/
  untouched : ∀ cause, exit = .misconfigured cause → outcome.disk = before
  /-- Without an action no request is sent. -/
  unasked : options.action ≠ "Install" → options.action ≠ "Uninstall" → outcome.received = []
  /-- What fails before a version is staged leaves no more than the log. -/
  logged : exit.code ≠ 0 → (∀ cause, exit ≠ .unplanned (.staging cause)) →
    LogFootprint environment before.tree outcome.disk.tree

section

variable {environment : Environment} {network : Network} {journal : Journal} {path : Option Path}
  {options : PlanOptions} {disk : State}

/-- Whichever way a run ends, it ends cleanly. -/
theorem endsCleanly_of_ends {exit : Exit}
    (ends : Ends environment network journal path options disk exit) :
    EndsCleanly environment options disk exit
      (perform environment network journal ⟨path, .plan options⟩ disk) := by
  have opened := footprint_openLog environment journal.early disk
  cases ends with
  | misconfigured loading =>
    rw [perform_eq, loading]
    exact ⟨rfl, fun _ => rfl, fun _ _ => rfl, fun _ _ => rfl, fun _ _ => .refl environment disk.tree⟩
  | brokenOff loading opening =>
    rw [perform_of_brokenOff loading opening]
    exact ⟨rfl, fun _ => rfl, nofun, fun _ _ => rfl, fun _ _ => opened⟩
  | misspelt loading settled spelling =>
    obtain ⟨warnings, after, performed, closed⟩ :=
      perform_of_logSettled network (.plan options) loading settled
    rw [runCommand_plan, runPlan_of_misspelt spelling] at performed closed
    rw [performed]
    exact ⟨rfl, fun _ => rfl, nofun, fun _ _ => rfl, fun _ _ => opened.trans closed⟩
  | unplanned loading settled requested planning =>
    obtain ⟨warnings, after, performed, closed⟩ :=
      perform_of_logSettled network (.plan options) loading settled
    obtain ⟨message, reasons, received, ran⟩ := runPlan_of_unplanned requested planning
    rw [runCommand_plan, ran] at performed closed
    rw [performed]
    refine ⟨rfl, fun _ => rfl, nofun, ?_, ?_⟩
    · exact fun notInstall notUninstall =>
        absurd ⟨notInstall, notUninstall⟩ (spelt_of_requested requested)
    · intro _ unstaged
      rw [disk_planFromFeed planning fun staging same => unstaged staging (same ▸ rfl)] at closed
      exact opened.trans closed
  | planned loading settled requested planning =>
    obtain ⟨warnings, after, performed, -⟩ :=
      perform_of_logSettled network (.plan options) loading settled
    obtain ⟨received, behind, ran⟩ := runPlan_of_planned requested planning
    rw [runCommand_plan, ran] at performed
    rw [performed]
    refine ⟨rfl, fun fails => absurd rfl fails, nofun, ?_, fun fails => absurd rfl fails⟩
    exact fun notInstall notUninstall =>
      absurd ⟨notInstall, notUninstall⟩ (spelt_of_requested requested)

/-- The ways exclude each other, since each of them is the one that is computed. -/
theorem exitOf_of_ends {exit : Exit}
    (ends : Ends environment network journal path options disk exit) :
    exitOf environment network journal path options disk = exit := by
  cases ends with
  | misconfigured loading => simp only [exitOf, loading]
  | brokenOff loading opening => simp only [exitOf, loading, opening]
  | misspelt loading settled spelling =>
    simp only [exitOf, loading, request_error_iff.mpr ⟨spelling, rfl⟩]
    split
    · rename_i opening
      exact absurd opening (settled _)
    · rfl
  | unplanned loading settled requested planning | planned loading settled requested planning =>
    simp only [exitOf, loading, requested, planning]
    split
    · rename_i opening
      exact absurd opening (settled _)
    · rfl

end

/-- A `plan` command ends in exactly one of the ways, and it ends cleanly: one that fails prints
nothing, without a configuration it touches nothing, without an action it asks nothing, and unless it
fails to stage a version it leaves no more than its log. -/
theorem plan_command_ends_cleanly (environment : Environment) (network : Network)
    (journal : Journal) (path : Option Path) (options : PlanOptions) (disk : State) :
    ∃ exit, Ends environment network journal path options disk exit ∧
      (∀ other, Ends environment network journal path options disk other → other = exit) ∧
      EndsCleanly environment options disk exit
        (perform environment network journal ⟨path, .plan options⟩ disk) := by
  obtain ⟨exit, ends⟩ := exists_ends environment network journal path options disk
  refine ⟨exit, ends, ?_, endsCleanly_of_ends ends⟩
  intro other alsoEnds
  rw [← exitOf_of_ends ends, exitOf_of_ends alsoEnds]

end ComponentInstall.CommandLine
