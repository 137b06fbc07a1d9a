import ComponentInstall.Proofs.Disk.Growth
import ComponentInstall.Proofs.Planning.Decision

/-!
# What planning leaves on the disk

Planning touches the disk at one point only, where it makes the staging folder of the version it has
decided on. `Footprint` says what making folders for a path can leave behind, in terms of paths:
everything that was there is there as it was, and what is new is a folder to which a beginning of the
path leads. This holds for every tree and every spelling of the path, also when the call is refused or
stops half way, because it holds of every single folder that is made.

`plan_footprint` says that planning leaves such a footprint of the staging path of its version, and
none at all if there is no version.
-/

namespace ComponentInstall.Planning

open Disk Staging

/-- A tree after folders were made for a path. -/
structure Footprint (path : Path) (before after : Tree) : Prop where
  /-- Nothing is removed or replaced, and files keep their content. -/
  kept : ∀ place entry, before.find place = some entry → after.find place = some entry
  /-- What is new is a folder, and a beginning of the path leads to it. -/
  made : ∀ place entry, before.find place = none → after.find place = some entry →
    entry = .folder ∧ ∃ front : Path, front.Begins path ∧ after.LeadsTo front place

/-- Folders that were made along the way of a path that can be followed are a footprint of it. -/
theorem footprint_of_grows {path : Path} {route : Route} {before after : Tree}
    (followed : path.route = .ok route) (grown : Tree.Grows path.way before after) :
    Footprint path before after where
  kept := grown.kept
  made place entry missing found := by
    obtain ⟨folder, outer, first, reached⟩ := grown.made place entry missing found
    have moves : outer ≠ [] := by
      rintro rfl
      cases reached
      simp at missing
    obtain ⟨front, begins, way, frontRoute, frontFollowed⟩ :=
      Path.exists_begins followed moves first
    refine ⟨folder, front, begins, (Tree.leadsTo_iff frontFollowed).mpr ?_⟩
    rw [way]
    exact reached

/-- Making folders for a path leaves a footprint of that path. -/
theorem footprint_createFolders (disk : State) (path : Path) :
    Footprint path disk.tree (disk.createFolders path).2.tree := by
  cases followed : path.route with
  | error refusal =>
    rw [disk.createFolders_of_unfollowed followed]
    exact ⟨fun _ _ found => found, fun _ _ missing found => by simp [missing] at found⟩
  | ok route =>
    exact footprint_of_grows followed
      ((disk.createFolders_grows path).2.widen path.making_suffix)

/-- Before a version is settled nothing is staged, so nothing can fail to be. -/
theorem decision_ne_staging (planner : Planner) (source : Feed.CandidateSource) (request : Request)
    (target : Instance) (installed : String) (error : StagingError) :
    (decision planner source request target installed).1 ≠ .error (.staging error) := by
  have decides := decides_decision planner source request target installed
  intro same
  rw [same] at decides
  cases decides

/-- A request that gets no version leaves the disk as it was. Any other one leaves a footprint of the
staging path of its version, whether the folder could be made or not. -/
theorem plan_footprint (planner : Planner) (source : Feed.CandidateSource) (request : Request)
    (target : Instance) (disk : State) :
    match (planner.plan source request target disk).outcome with
    | .error (.request _) | .error (.versionLookup _) =>
      (planner.plan source request target disk).disk = disk
    | .error (.staging error) =>
      ∃ version cause, error = .createFolder (folder planner.stagingRoot request.name version) cause ∧
        Footprint (folder planner.stagingRoot request.name version) disk.tree
          (planner.plan source request target disk).disk.tree
    | .ok plan =>
      plan.stagingPath = folder planner.stagingRoot request.name plan.version ∧
        Footprint plan.stagingPath disk.tree
          (planner.plan source request target disk).disk.tree := by
  cases decided : (decisionOn planner source request target disk).1 with
  | error error =>
    rw [plan_of_refused planner source request target decided]
    cases error with
    | request cause => rfl
    | versionLookup cause => rfl
    | staging cause => exact absurd decided (decision_ne_staging planner source request target _ cause)
  | ok version =>
    have footprint := footprint_createFolders disk (folder planner.stagingRoot request.name version)
    rw [plan_of_settled planner source request target decided, disk_stage]
    simp only
    generalize current planner.installedRoot request.name disk = installed
    cases staged : (planner.stage request target installed version disk).1 with
    | error error =>
      obtain ⟨cause, -, rfl⟩ := (stage_error_iff planner request target _ version disk error).mp staged
      exact ⟨version, cause, rfl, footprint⟩
    | ok plan =>
      rw [eq_assemble_of_stage planner request target installed staged]
      exact ⟨rfl, footprint⟩

end ComponentInstall.Planning
