import ComponentInstall.Proofs.Disk.Detour
import ComponentInstall.Proofs.Planning.Again
import ComponentInstall.Proofs.Planning.Containment

/-!
# When a plan finds what was staged before

A plan says whether a package of its version is staged, but it looks for one only after it made the folder
of the version. A package that was there before is always found. If the way of the folder is direct,
nothing else is: what is made lies around the folder that is looked at, not in it, and whatever lies in it
could be found before.

With a detour it is otherwise. The way may enter a folder in the one that it leads to, and then that
folder, which planning makes, is taken for a package. Or it may enter one beside, and what was out of reach
before is found once that folder is there. So for every path with a detour that can be followed at all
there is a disk on which a plan finds a package that could not be found before.
-/

namespace ComponentInstall.Staging

open ComponentInstall.Disk

variable {root : Path} {name version : String} {disk : State}

/-- What is found before the folder of a version is made is found afterwards. -/
theorem hasPackage_createFolders
    (found : hasPackage root name version disk = true) :
    hasPackage root name version (disk.createFolders (folder root name version)).2 = true := by
  obtain ⟨allowed, place, ⟨route, followed, resolved⟩, child, held⟩ :=
    (hasPackage_eq_true_iff disk).mp found
  obtain ⟨surroundings, grown⟩ := disk.createFolders_grows (folder root name version)
  have reached := (Tree.leadsTo_iff followed).mp ⟨route, followed, resolved⟩
  refine (hasPackage_eq_true_iff _).mpr ⟨?_, place, ?_, child, ?_⟩
  · rw [surroundings]
    exact allowed
  · exact (Tree.leadsTo_iff followed).mpr (Tree.reach_of_kept grown.kept reached)
  · obtain ⟨entry, present⟩ := Option.ne_none_iff_exists'.mp held
    simp [grown.kept _ _ present]

/-- On a direct way nothing is found that was not found before. -/
theorem hasPackage_of_direct (direct : Direct (folder root name version).way)
    (found : hasPackage root name version (disk.createFolders (folder root name version)).2 = true) :
    hasPackage root name version disk = true := by
  obtain ⟨allowed, place, ⟨route, followed, resolved⟩, child, held⟩ :=
    (hasPackage_eq_true_iff _).mp found
  obtain ⟨surroundings, -⟩ := disk.createFolders_grows (folder root name version)
  rw [surroundings] at allowed
  have reached := (Tree.leadsTo_iff followed).mp ⟨route, followed, resolved⟩
  obtain rfl := Tree.eq_destination_of_reach reached
  have heldBefore := State.held_of_direct direct held
  refine (hasPackage_eq_true_iff disk).mpr ⟨allowed, _, (Tree.leadsTo_iff followed).mpr ?_, child,
    heldBefore⟩
  exact Tree.reach_of_direct direct (Tree.short_of_reach reached)
    (disk.tree.find_outer child _ heldBefore)

/-- With a detour there is a disk on which making the folder reveals a package. -/
theorem exists_revealed {route : Route} (followed : (folder root name version).route = .ok route)
    (short : Short (folder root name version).way)
    (detour : ¬ Direct (folder root name version).way) :
    ∃ tree staged, (State.plain tree).createFolders (folder root name version) = (.ok (), staged) ∧
      hasPackage root name version (State.plain tree) = false ∧
      hasPackage root name version staged = true := by
  obtain ⟨tree, child, held, passable, unreached⟩ := exists_unreached short detour
  have allowed : (State.plain tree).faults .createFolders (folder root name version) = none := rfl
  have made : ((State.plain tree).createFolders (folder root name version)).1 = .ok () := by
    rw [State.createFolders_of_route allowed followed]
    rw [← Path.way_of_route followed] at passable held
    exact Tree.makeWay_of_passable passable (tree.find_outer child _ (by simp [held]))
  obtain ⟨surroundings, grown⟩ :=
    (State.plain tree).createFolders_grows (folder root name version)
  obtain ⟨place, reached⟩ := State.reach_of_createFolders followed made
  obtain rfl := Tree.eq_destination_of_reach reached
  refine ⟨tree, _, Prod.ext made rfl, ?_, ?_⟩
  · apply Bool.eq_false_iff.mpr
    intro found
    obtain ⟨-, place, leads, -⟩ := (hasPackage_eq_true_iff _).mp found
    exact unreached place ((Tree.leadsTo_iff followed).mp leads)
  · refine (hasPackage_iff _ followed reached).mpr ⟨?_, child, ?_⟩
    · rw [surroundings]
      exact ⟨rfl, rfl⟩
    · simp [grown.kept _ _ held]

end ComponentInstall.Staging

namespace ComponentInstall.Planning

open Disk Feed Staging

/-- A plan finds every package that was staged before. If the way of its folder is direct it finds no
other. If it is not, and can be followed at all, there is a disk on which the plan for a version that the
request fixes finds a package that could not be found before. -/
theorem packageStaged_exact (planner : Planner) (source : CandidateSource) (request : Request)
    (target : Instance) :
    (∀ disk plan, (planner.plan source request target disk).outcome = .ok plan →
      (hasPackage planner.stagingRoot request.name plan.version disk = true →
        plan.packageStaged = true) ∧
      (Direct (folder planner.stagingRoot request.name plan.version).way →
        plan.packageStaged = hasPackage planner.stagingRoot request.name plan.version disk)) ∧
    ∀ version, Named request → request.version = some version →
      (∃ route, (folder planner.stagingRoot request.name version).route = .ok route) →
      Short (folder planner.stagingRoot request.name version).way →
      ¬ Direct (folder planner.stagingRoot request.name version).way →
      ∃ tree plan, (planner.plan source request target (State.plain tree)).outcome = .ok plan ∧
        plan.version = version ∧ plan.packageStaged = true ∧
        hasPackage planner.stagingRoot request.name version (State.plain tree) = false := by
  constructor
  · intro disk plan succeeded
    obtain ⟨-, made, assembled⟩ := made_of_planned (eq_of_outcome succeeded)
    have staged : plan.packageStaged = hasPackage planner.stagingRoot request.name plan.version
        (disk.createFolders (folder planner.stagingRoot request.name plan.version)).2 := by
      rw [made]
      exact congrArg InstallPlan.packageStaged assembled
    rw [staged]
    exact ⟨hasPackage_createFolders, fun direct =>
      Bool.eq_iff_iff.mpr ⟨hasPackage_of_direct direct, hasPackage_createFolders⟩⟩
  · intro version named fixed followable short detour
    obtain ⟨route, followed⟩ := followable
    obtain ⟨tree, staged, made, before, after⟩ := exists_revealed followed short detour
    have settled := decisionOn_of_given named fixed planner source target (State.plain tree)
    refine ⟨tree, planner.assemble request target
      (current planner.installedRoot request.name (State.plain tree)) version
      (hasPackage planner.stagingRoot request.name version staged), ?_, rfl, after, before⟩
    rw [plan_of_settled planner source request target settled, stage_of_made planner request target _ made]

/-- A version without dots that lead back is no detour, so nothing is found on an empty disk. -/
theorem packageStaged_exact_of_plain_version :
    let request := (Request.new "PVDriver" .install).withVersion "9000.0.0"
    let planned := agentPlanner.plan (fun _ _ => .ok []) request .unknown (State.plain .empty)
    ∃ plan, planned.outcome = .ok plan ∧ plan.packageStaged = false := by
  intro request planned
  have done : planned.outcome.map InstallPlan.version = .ok "9000.0.0" := by decide +kernel
  obtain ⟨plan, same, version⟩ := planned_of_version done
  have succeeded : planned.outcome = .ok plan := by rw [same]
  have direct : Direct (folder agentPlanner.stagingRoot request.name plan.version).way := by
    rw [version]
    exact direct_of_straight (by decide)
  refine ⟨plan, succeeded, ?_⟩
  rw [((packageStaged_exact agentPlanner _ request .unknown).1 _ plan succeeded).2 direct, version]
  decide +kernel

/-- A version that enters a folder and leaves it again is staged where that folder lies, and the folder
that planning made counts as a package. -/
theorem packageStaged_of_returning_version :
    let request := (Request.new "PVDriver" .install).withVersion "9000.0.0/.."
    ¬ ∀ plan, (agentPlanner.plan (fun _ _ => .ok []) request .unknown (State.plain .empty)).outcome
        = .ok plan →
      plan.packageStaged =
        hasPackage agentPlanner.stagingRoot request.name plan.version (State.plain .empty) := by
  intro request same
  have staged : (agentPlanner.plan (fun _ _ => .ok []) request .unknown
      (State.plain .empty)).outcome.map (fun plan => (plan.version, plan.packageStaged))
        = .ok ("9000.0.0/..", true) := by decide +kernel
  obtain ⟨plan, succeeded, found⟩ := map_eq_ok_iff.mp staged
  have before := same plan succeeded
  obtain ⟨version, package⟩ := Prod.mk.inj found
  rw [version, package] at before
  exact absurd before (by decide +kernel)

end ComponentInstall.Planning
