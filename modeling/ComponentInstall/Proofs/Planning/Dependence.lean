import ComponentInstall.Planning.FeedBacked
import ComponentInstall.Proofs.Planning.Decision

/-!
# What plans depend on

Template and instance serve one purpose, which is to say where the files of a component are. So two runs
of planning cannot be told apart if the same locations come out for the request, and if the candidate
sources answer its question alike. A run shows its outcome, the disk behind it and the manifests that
were consulted for it.

A candidate source that sees nothing of an instance but the location of a manifest answers alike
wherever the locations are the same, and the feed is such a source.

Three cases follow. The version of the platform and its label are in no location. In the separate realm
the template is in none. And a request that names its package by itself has no other location, so it
depends neither on the template nor on the instance, and no source is asked.
-/

namespace ComponentInstall.Planning

open Disk Feed Staging

/-- What a run of planning shows: its outcome, the disk behind it and the manifests it consulted. -/
structure View where
  outcome : Except PlanError InstallPlan
  disk : State
  manifests : List String

/-- What a run shows whose questions are about the manifests below a template. -/
def Planned.view (template : String) (planned : Planned) : View :=
  ⟨planned.outcome, planned.disk,
    planned.asked.map fun query => Location.manifest template query.name query.target⟩

/-- The candidate source that answers for a component as its manifest does. -/
def sourceAt (template : String) (answers : String → String → Except ListingError (List String)) :
    CandidateSource :=
  fun name target => answers name (Location.manifest template name target)

/-- The feed sees nothing of an instance but the location of the manifest. -/
theorem source_eq_sourceAt (template : String) (network : Network) :
    Feed.source template network = sourceAt template (Feed.lookup network) := by
  funext name target
  rw [Feed.source, sourceAt]

/-- Two planners, asked about two instances, find the same locations for a request and keep its files in
the same places. -/
structure Alike (request : Request) (left right : Planner) (target other : Instance) : Prop where
  stagingRoot : left.stagingRoot = right.stagingRoot
  installedRoot : left.installedRoot = right.installedRoot
  wanted : left.wanted = right.wanted
  manifest : left.manifestUrl request target = right.manifestUrl request other
  package : ∀ version,
    left.packageUrl request target version = right.packageUrl request other version

section

variable {request : Request} {left right : Planner} {target other : Instance}
  {source alternative : CandidateSource}

namespace Alike

theorem assemble (alike : Alike request left right target other) (installed version : String)
    (staged : Bool) :
    left.assemble request target installed version staged =
      right.assemble request other installed version staged := by
  simp only [Planner.assemble, alike.manifest, alike.package, alike.stagingRoot]

/-- A version is staged alike. -/
theorem stage (alike : Alike request left right target other) (installed version : String)
    (disk : State) :
    left.stage request target installed version disk =
      right.stage request other installed version disk := by
  simp only [Planner.stage_eq, alike.assemble, alike.stagingRoot]

/-- A request that has to be looked up has the same manifest. -/
theorem manifest_of_unsourced (alike : Alike request left right target other)
    (unsourced : request.source = none) :
    Location.manifest left.template request.name target =
      Location.manifest right.template request.name other := by
  have same := alike.manifest
  simp only [Planner.manifestUrl, unsourced] at same
  exact Option.some.inj same

/-- If the question of the request is answered alike, the decision is the same, and the question is
about the same manifest. -/
theorem decision (alike : Alike request left right target other)
    (answered : request.source = none →
      source request.name target = alternative request.name other) (installed : String) :
    (decision left source request target installed).1 =
        (decision right alternative request other installed).1 ∧
      (decision left source request target installed).2.map
          (fun query => Location.manifest left.template query.name query.target) =
        (decision right alternative request other installed).2.map
          (fun query => Location.manifest right.template query.name query.target) := by
  have decides := decides_decision left source request target installed
  generalize Planning.decision left source request target installed = result at decides
  obtain ⟨decided, asked⟩ := result
  cases decides with
  | nameless blank =>
    rw [decision_of_decides (.nameless blank)]
    simp only [List.map_nil, and_self]
  | given named fixed =>
    rw [decision_of_decides (.given named fixed)]
    simp only [List.map_nil, and_self]
  | removed named free removal present =>
    rw [decision_of_decides (.removed named free removal present)]
    simp only [List.map_nil, and_self]
  | bypassed unsettled sourced =>
    rw [decision_of_decides (.bypassed unsettled sourced)]
    simp only [List.map_nil, and_self]
  | unlisted unsettled unsourced answer =>
    rw [answered unsourced] at answer
    rw [decision_of_decides (.unlisted unsettled unsourced answer)]
    simp only [List.map_cons, List.map_nil, alike.manifest_of_unsourced unsourced, and_self]
  | unpublished unsettled unsourced answer nothing =>
    rw [answered unsourced] at answer
    rw [alike.wanted] at nothing
    rw [decision_of_decides (.unpublished unsettled unsourced answer nothing)]
    simp only [List.map_cons, List.map_nil, alike.manifest_of_unsourced unsourced, and_self]
  | published unsettled unsourced answer something =>
    rw [answered unsourced] at answer
    rw [alike.wanted] at something
    rw [decision_of_decides (.published unsettled unsourced answer something), alike.wanted]
    simp only [List.map_cons, List.map_nil, alike.manifest_of_unsourced unsourced, and_self]

/-- Two runs cannot be told apart if the locations are the same and the question is answered alike. -/
theorem view (alike : Alike request left right target other)
    (answered : request.source = none →
      source request.name target = alternative request.name other) (disk : State) :
    (left.plan source request target disk).view left.template =
      (right.plan alternative request other disk).view right.template := by
  obtain ⟨sameDecision, sameManifests⟩ :=
    alike.decision answered (current left.installedRoot request.name disk)
  have root := alike.installedRoot
  cases decided : (decisionOn left source request target disk).1 with
  | error error =>
    have decidedRight : (decisionOn right alternative request other disk).1 = .error error := by
      rw [decisionOn, ← root, ← sameDecision]
      exact decided
    rw [plan_of_refused left source request target decided,
      plan_of_refused right alternative request other decidedRight]
    simp only [Planned.view, decisionOn, ← root, sameManifests]
  | ok version =>
    have decidedRight : (decisionOn right alternative request other disk).1 = .ok version := by
      rw [decisionOn, ← root, ← sameDecision]
      exact decided
    rw [plan_of_settled left source request target decided,
      plan_of_settled right alternative request other decidedRight]
    simp only [Planned.view, decisionOn, ← root, sameManifests, alike.stage]

end Alike

end

/-- In the separate realm the endpoint does not depend on the template. -/
theorem base_of_china (template other rest : String) (target : Instance) :
    Location.base template { target with region := "cn-" ++ rest } =
      Location.base other { target with region := "cn-" ++ rest } := by
  have realm : Location.Partition.ofRegion ("cn-" ++ rest) = .china := by
    rw [Location.Partition.ofRegion, String.toList_append]
    rfl
  simp only [Location.base, realm]
  rfl

section

variable {stagingRoot installedRoot : Path} {wanted : Option String}

/-- Planners that differ in their templates only are alike where the endpoints are the same. -/
theorem alike_of_base {request : Request} {left right : String} {target : Instance}
    (same : Location.base left target = Location.base right target) :
    Alike request ⟨stagingRoot, installedRoot, left, wanted⟩
      ⟨stagingRoot, installedRoot, right, wanted⟩ target target where
  stagingRoot := rfl
  installedRoot := rfl
  wanted := rfl
  manifest := by simp only [Planner.manifestUrl, Location.manifest, Location.folder, same]
  package version := by simp only [Planner.packageUrl, Location.package, Location.folder, same]

/-- Planners are alike for a request that names its package by itself. -/
theorem alike_of_sourced {request : Request} {location : String}
    (sourced : request.source = some location) (left right : String) (target other : Instance) :
    Alike request ⟨stagingRoot, installedRoot, left, wanted⟩
      ⟨stagingRoot, installedRoot, right, wanted⟩ target other where
  stagingRoot := rfl
  installedRoot := rfl
  wanted := rfl
  manifest := by simp only [Planner.manifestUrl, sourced]
  package version := by simp only [Planner.packageUrl, sourced]

end

/-- Plans depend only on what matters for the request, whatever the disk with its failing calls and
whatever the manifests answer. The version of the platform and its label never matter; the template does
not matter in the separate realm; and for a request that names its package by itself, neither template
nor instance nor candidate source matters. -/
theorem view_plan_independent (stagingRoot installedRoot : Path) (wanted : Option String)
    (request : Request) (disk : State)
    (answers : String → String → Except ListingError (List String)) :
    let view (template : String) (source : CandidateSource) (request : Request)
        (target : Instance) : View :=
      ((Planner.mk stagingRoot installedRoot template wanted).plan source request target disk).view
        template
    (∀ template (target : Instance) platformVersion installerName,
      view template (sourceAt template answers) request
          { target with platformVersion := platformVersion, installerName := installerName } =
        view template (sourceAt template answers) request target) ∧
    (∀ left right rest (target : Instance),
      view left (sourceAt left answers) request { target with region := "cn-" ++ rest } =
        view right (sourceAt right answers) request { target with region := "cn-" ++ rest }) ∧
    ∀ location left right source alternative target other,
      view left source { request with source := some location } target =
        view right alternative { request with source := some location } other := by
  intro view
  refine ⟨?_, ?_, ?_⟩
  · intro template target platformVersion installerName
    apply Alike.view
    · constructor <;> intros <;> rfl
    · intro _
      rfl
  · intro left right rest target
    have same := base_of_china left right rest target
    apply (alike_of_base same).view
    intro _
    simp only [sourceAt, Location.manifest, Location.folder, same]
  · intro location left right source alternative target other
    apply (alike_of_sourced rfl left right target other).view
    intro unsourced
    cases unsourced

end ComponentInstall.Planning
