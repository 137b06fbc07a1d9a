import ComponentInstall.Proofs.Planning.Decision
import ComponentInstall.Proofs.Version.Spelling

/-!
# Where settled versions come from

A version is settled by the request, by a marker or by a candidate source. A request can fix any text,
but what a marker or a source gives has no blanks around it, and what a source gives is a single name in
a path.

If the settled version is recorded as installed, the same request is about the same version again: one
that fixes its version asks for no other, one that removes what is installed finds it installed, and an
install asks the same source.
-/

namespace ComponentInstall.Planning

open Feed

variable {planner : Planner} {source : CandidateSource} {request : Request} {target : Instance}
  {installed version : String}

theorem decides_of_settled
    (settled : (decision planner source request target installed).1 = .ok version) :
    ∃ asked, Decides planner source request target installed (.ok version) asked := by
  have decides := decides_decision planner source request target installed
  rw [settled] at decides
  exact ⟨_, decides⟩

/-- A version that is settled is a single name if the request and the marker have no other. -/
theorem normal_of_decision
    (settled : (decision planner source request target installed).1 = .ok version)
    (explicit : ∀ fixed, request.version = some fixed → Disk.NormalSegment fixed)
    (marked : installed = "" ∨ Disk.NormalSegment installed) : Disk.NormalSegment version := by
  obtain ⟨asked, decides⟩ := decides_of_settled settled
  cases decides with
  | given named fixed => exact explicit version fixed
  | removed named free removal present => exact marked.resolve_left present
  | published unsettled unsourced answer something => exact Version.normal_of_latest something

/-- A version that the request does not fix has no blanks around it. -/
theorem trim_of_decision
    (settled : (decision planner source request target installed).1 = .ok version)
    (free : request.version = none) (trimmed : Text.trim installed = installed) :
    Text.trim version = version := by
  obtain ⟨asked, decides⟩ := decides_of_settled settled
  cases decides with
  | given named fixed => cases free.symm.trans fixed
  | removed named free removal present => exact trimmed
  | published unsettled unsourced answer something => exact Version.trim_latest _ _

/-- An install that fixes no version is about one that is published. -/
theorem published_of_install {name : String}
    (settled : (decision planner source (Request.new name .install) target installed).1
      = .ok version) : Named (Request.new name .install) ∧ version ≠ "" := by
  obtain ⟨asked, decides⟩ := decides_of_settled settled
  cases decides with
  | given named fixed => cases fixed
  | removed named free removal present => cases removal
  | published unsettled unsourced answer something => exact ⟨unsettled.named, something⟩

/-- The settled version is settled again after it was recorded as installed. -/
theorem settled_again
    (settled : (decision planner source request target installed).1 = .ok version)
    (trimmed : Text.trim installed = installed) :
    (decision planner source request target (Text.trim version)).1 = .ok version := by
  obtain ⟨asked, decides⟩ := decides_of_settled settled
  cases decides with
  | given named fixed => rw [decision_of_decides (.given named fixed)]
  | removed named free removal present =>
    rw [trimmed, decision_of_decides (.removed named free removal present)]
  | published unsettled unsourced answer something =>
    rw [Version.trim_latest]
    cases action : request.action with
    | install =>
      have unsettledNow (marked : String) : Unsettled request marked :=
        ⟨unsettled.named, unsettled.free, fun removal => by cases action.symm.trans removal⟩
      rw [decision_of_decides (.published (unsettledNow _) unsourced answer something)]
    | uninstall =>
      rw [decision_of_decides (.removed unsettled.named unsettled.free action something)]

end ComponentInstall.Planning
