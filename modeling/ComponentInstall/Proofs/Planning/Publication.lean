import ComponentInstall.Proofs.Planning.Again
import ComponentInstall.Proofs.Version.Monotone

/-!
# The order of publication

A version can be spelled in several ways, since leading zeros count for nothing. The choice among
published versions compares what they denote and gives the winner in its own spelling, so of several
spellings of the greatest version it gives the last. Hence two lists of the same candidates always lead to
the same version, whatever their order and however often a candidate is repeated. They lead to the same
text, and so to the same plan, as long as the greatest version is spelled in one way only; and otherwise
another order leads to another text.
-/

namespace ComponentInstall

open Disk Feed

namespace Version

/-- All candidates that denote the greatest version among those that qualify are the same text. -/
def OneSpelling (wanted : Option String) (candidates : List String) : Prop :=
  ∀ version,
    (∀ candidate ∈ candidates, ∀ other, Qualifies wanted candidate other →
      other.rank ≤ version.rank) →
    ∀ first ∈ candidates, ∀ second ∈ candidates,
      Qualifies wanted first version → Qualifies wanted second version → first = second

section

variable {wanted : Option String} {left right candidates : List String}

/-- Two choices that cover each other are for the same version. -/
theorem ofText_eq_of_notAbove {first second : String} (below : NotAbove first second)
    (above : NotAbove second first) : ofText first = ofText second := by
  obtain ⟨low, high, firstDenotes, secondDenotes, ordered⟩ := below
  obtain ⟨high', low', secondDenotes', firstDenotes', ordered'⟩ := above
  obtain rfl : high = high' := Option.some.inj (secondDenotes.symm.trans secondDenotes')
  obtain rfl : low = low' := Option.some.inj (firstDenotes.symm.trans firstDenotes')
  rw [firstDenotes, secondDenotes, Triple.rank_injective (le_antisymm ordered ordered')]

/-- The same candidates lead to the same version, or both lead to none. -/
theorem ofText_latest_of_same (same : ∀ candidate, candidate ∈ left ↔ candidate ∈ right) :
    ofText (latest wanted left) = ofText (latest wanted right) := by
  have covers : left ⊆ right := fun candidate => (same candidate).mp
  have covered : right ⊆ left := fun candidate => (same candidate).mpr
  by_cases nothing : latest wanted left = ""
  · by_cases nothingRight : latest wanted right = ""
    · rw [nothing, nothingRight]
    · exact absurd nothing (latest_of_subset covered nothingRight).1
  · obtain ⟨something, below⟩ := latest_of_subset covers nothing
    exact ofText_eq_of_notAbove below (latest_of_subset covered something).2

theorem latest_eq_empty_iff_of_same (same : ∀ candidate, candidate ∈ left ↔ candidate ∈ right) :
    latest wanted left = "" ↔ latest wanted right = "" := by
  constructor
  · intro nothing
    exact latest_of_nobody fun candidate member =>
      nobody_of_latest nothing candidate ((same candidate).mpr member)
  · intro nothing
    exact latest_of_nobody fun candidate member =>
      nobody_of_latest nothing candidate ((same candidate).mp member)

/-- If the greatest version is spelled in one way only, the same candidates lead to the same text. -/
theorem latest_of_oneSpelling (same : ∀ candidate, candidate ∈ left ↔ candidate ∈ right)
    (spelling : OneSpelling wanted left) : latest wanted left = latest wanted right := by
  by_cases nothing : latest wanted left = ""
  · rw [nothing, (latest_eq_empty_iff_of_same same).mp nothing]
  · have something : latest wanted right ≠ "" :=
      fun empty => nothing ((latest_eq_empty_iff_of_same same).mpr empty)
    obtain ⟨version, won⟩ := lastGreatest_latest nothing
    obtain ⟨rival, rivalWon⟩ := lastGreatest_latest something
    have agree : ofText (latest wanted left) = ofText (latest wanted right) :=
      ofText_latest_of_same same
    obtain rfl : version = rival := by
      rw [won.qualifies.denotes, rivalWon.qualifies.denotes] at agree
      exact Option.some.inj agree
    exact spelling version won.greatest _ won.mem _ ((same _).mpr rivalWon.mem) won.qualifies
      rivalWon.qualifies

/-- It is enough that no candidate spells the chosen version in another way. -/
theorem oneSpelling_of_chosen
    (only : ∀ candidate ∈ candidates, ofText candidate = ofText (latest wanted candidates) →
      candidate = latest wanted candidates) : OneSpelling wanted candidates := by
  intro version bounded first firstListed second secondListed firstQualifies secondQualifies
  have something : latest wanted candidates ≠ "" :=
    fun nothing => nobody_of_latest nothing first firstListed version firstQualifies
  obtain ⟨chosen, won⟩ := lastGreatest_latest something
  obtain rfl : chosen = version := by
    apply Triple.rank_injective
    exact le_antisymm (bounded _ won.mem chosen won.qualifies)
      (won.greatest first firstListed version firstQualifies)
  have spelling {candidate : String} (listed : candidate ∈ candidates)
      (qualifies : Qualifies wanted candidate chosen) : candidate = latest wanted candidates :=
    only candidate listed (qualifies.denotes.trans won.qualifies.denotes.symm)
  rw [spelling firstListed firstQualifies, spelling secondListed secondQualifies]

/-- Every spelling of the greatest version is chosen if it is published last. -/
theorem latest_of_moved {spelling : String} {version : Triple}
    (bounded : ∀ candidate ∈ candidates, ∀ other, Qualifies wanted candidate other →
      other.rank ≤ version.rank) (qualifies : Qualifies wanted spelling version) :
    latest wanted (candidates.erase spelling ++ [spelling]) = spelling :=
  latest_of_lastGreatest (.takeLead qualifies fun candidate member =>
    bounded candidate (List.mem_of_mem_erase member))

/-- If the greatest version is spelled in several ways, some order leads to another text. -/
theorem exists_reordered (several : ¬ OneSpelling wanted candidates) :
    ∃ reordered, reordered.Perm candidates ∧
      latest wanted reordered ≠ latest wanted candidates := by
  simp only [OneSpelling, not_forall] at several
  obtain ⟨version, bounded, first, firstListed, second, secondListed, firstQualifies,
    secondQualifies, differ⟩ := several
  have moved {spelling : String} (listed : spelling ∈ candidates) :
      (candidates.erase spelling ++ [spelling]).Perm candidates :=
    (List.perm_append_singleton spelling _).trans (List.perm_cons_erase listed).symm
  by_cases chosen : latest wanted candidates = first
  · refine ⟨_, moved secondListed, ?_⟩
    rw [latest_of_moved bounded secondQualifies, chosen]
    exact Ne.symm differ
  · refine ⟨_, moved firstListed, ?_⟩
    rw [latest_of_moved bounded firstQualifies]
    exact Ne.symm chosen

end

end Version

namespace Planning

section

variable {planner : Planner} {source other : CandidateSource} {request : Request} {target : Instance}
  {listed relisted : List String} {installed version respelled : String}

/-- Sources that lead to the same choice lead to the same decision. -/
theorem decision_of_same_latest (listing : source request.name target = .ok listed)
    (relisting : other request.name target = .ok relisted)
    (same : Version.latest planner.wanted relisted = Version.latest planner.wanted listed) :
    decision planner other request target installed =
      decision planner source request target installed := by
  have resolved (about : Target) : about.resolve other planner.wanted request target =
      about.resolve source planner.wanted request target := by
    cases about with
    | settled version => rfl
    | unsettled => rfl
    | latest => simp only [Target.resolve, listing, relisting, same]
  simp only [decision, resolved]

/-- Sources that list the same candidates settle the same version, maybe in another spelling. -/
theorem ofText_of_settled (listing : source request.name target = .ok listed)
    (relisting : other request.name target = .ok relisted)
    (same : ∀ candidate, candidate ∈ relisted ↔ candidate ∈ listed)
    (settled : (decision planner source request target installed).1 = .ok version)
    (resettled : (decision planner other request target installed).1 = .ok respelled) :
    Version.ofText respelled = Version.ofText version := by
  obtain ⟨asked, decides⟩ := decides_of_settled settled
  cases decides with
  | given named fixed =>
    rw [decision_of_decides (.given named fixed)] at resettled
    cases resettled
    rfl
  | removed named free removal present =>
    rw [decision_of_decides (.removed named free removal present)] at resettled
    cases resettled
    rfl
  | published unsettled unsourced answer something =>
    cases listing.symm.trans answer
    have somethingToo : Version.latest planner.wanted relisted ≠ "" :=
      mt (Version.latest_eq_empty_iff_of_same same).mp something
    rw [decision_of_decides (.published unsettled unsourced relisting somethingToo)] at resettled
    cases resettled
    exact Version.ofText_latest_of_same same

end

/-- Two sources list the same candidates for a request, in any order and however often. Then the choices
among them are for the same version, or there is none in both. They are the same text if the greatest
version is spelled in one way only, and if it is spelled in several, some order leads to another text.
Plans are for the same version, whichever source was asked, and they are the same unless a source was asked
and the greatest version is spelled in several ways. -/
theorem plan_of_same_candidates (planner : Planner) (source other : CandidateSource)
    (request : Request) (target : Instance) {listed relisted : List String}
    (listing : source request.name target = .ok listed)
    (relisting : other request.name target = .ok relisted)
    (same : ∀ candidate, candidate ∈ relisted ↔ candidate ∈ listed) :
    let latest := Version.latest planner.wanted
    (latest relisted = "" ↔ latest listed = "") ∧
      Version.ofText (latest relisted) = Version.ofText (latest listed) ∧
      (Version.OneSpelling planner.wanted relisted → latest relisted = latest listed) ∧
      (¬ Version.OneSpelling planner.wanted relisted →
        ∃ reordered, reordered.Perm relisted ∧ latest reordered ≠ latest relisted) ∧
      ∀ disk, let planned := planner.plan source request target disk
        let replanned := planner.plan other request target disk
        (∀ plan replan, planned.outcome = .ok plan → replanned.outcome = .ok replan →
          Version.ofText replan.version = Version.ofText plan.version) ∧
        (planned.asked = [] ∨ Version.OneSpelling planner.wanted relisted →
          replanned = planned) := by
  intro latest
  refine ⟨Version.latest_eq_empty_iff_of_same same, Version.ofText_latest_of_same same,
    Version.latest_of_oneSpelling same, Version.exists_reordered, fun disk => ⟨?_, ?_⟩⟩
  · intro plan replan planned replanned
    have settled := (made_of_planned (eq_of_outcome planned)).1
    have resettled := (made_of_planned (eq_of_outcome replanned)).1
    exact ofText_of_settled listing relisting same settled resettled
  · rintro (unasked | spelling)
    · apply plan_of_same_answers
      rw [unasked]
      intro query asked
      cases asked
    · apply plan_of_same_decision
      exact decision_of_same_latest listing relisting
        (Version.latest_of_oneSpelling same spelling)

/-- Below the greatest version, spellings may differ and the order may change. -/
theorem plan_of_same_candidates_of_repetition :
    let plan (candidates : List String) := agentPlanner.plan (fun _ _ => .ok candidates)
      (Request.new "PVDriver" .install) .unknown (State.plain .empty)
    let listed := ["01.0.0", "2.0.0", "1.0.0"]
    let relisted := ["1.0.0", "2.0.0", "01.0.0", "2.0.0"]
    (∀ candidate, candidate ∈ relisted ↔ candidate ∈ listed) ∧
      Version.OneSpelling none relisted ∧ plan relisted = plan listed := by
  intro plan listed relisted
  have same (candidate : String) : candidate ∈ relisted ↔ candidate ∈ listed := by
    simp only [relisted, listed, List.mem_cons, List.not_mem_nil, or_false]
    tauto
  have spelling : Version.OneSpelling none relisted :=
    Version.oneSpelling_of_chosen (by decide +kernel)
  obtain ⟨-, -, -, -, plans⟩ := plan_of_same_candidates agentPlanner (fun _ _ => .ok listed)
    (fun _ _ => .ok relisted) (Request.new "PVDriver" .install) .unknown rfl rfl same
  exact ⟨same, spelling, (plans (State.plain .empty)).2 (Or.inr spelling)⟩

/-- Two spellings of the greatest version, published in either order, lead to two texts, and so to two
locations and to two folders. -/
theorem plans_differ_of_respelled :
    let target : Instance := ⟨"us-west-2", "windows", "", "amd64", "", "zip"⟩
    let found (candidates : List String) := (agentPlanner.plan (fun _ _ => .ok candidates)
      (Request.new "PVDriver" .install) target (State.plain .empty)).outcome.map fun plan =>
        (plan.version, plan.packageUrl, plan.stagingPath)
    let packages := "https://s3.us-west-2.amazonaws.com/amazon-ssm-us-west-2/Components"
      ++ "/PVDriver/windows/amd64/"
    let listed := ["1.0.0", "01.0.0"]
    let relisted := ["01.0.0", "1.0.0"]
    (∀ candidate, candidate ∈ relisted ↔ candidate ∈ listed) ∧
      Version.latest none listed = "01.0.0" ∧ Version.latest none relisted = "1.0.0" ∧
      found listed = .ok ("01.0.0", packages ++ "01.0.0/PVDriver.zip",
        ⟨"agent/components/PVDriver/01.0.0"⟩) ∧
      found relisted = .ok ("1.0.0", packages ++ "1.0.0/PVDriver.zip",
        ⟨"agent/components/PVDriver/1.0.0"⟩) := by
  intro target found packages listed relisted
  refine ⟨fun candidate => ?_, ?_, ?_, ?_, ?_⟩
  · simp only [relisted, listed, List.mem_cons, List.not_mem_nil, or_false]
    exact or_comm
  all_goals decide +kernel

end Planning

end ComponentInstall
