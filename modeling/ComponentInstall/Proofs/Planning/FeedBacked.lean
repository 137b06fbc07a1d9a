import ComponentInstall.Planning.FeedBacked
import ComponentInstall.Proofs.Feed.Answers
import ComponentInstall.Proofs.Planning.Decision

/-!
# Planning with the feed

Planning with the feed is planning with any candidate source that answers by the status of the reply and
by the manifest in it. The question of a request is the only one that is ever asked, and it is asked
exactly if a listing is needed: if the request shows a name, if neither the request nor the marker settles
a version, and if the request does not name its package by itself. So it is enough to look at the answer
to that question, and the answers differ at most in how a refusal is worded.
-/

namespace ComponentInstall.Planning

open Disk Feed Staging

/-- Only a published version can settle a request. -/
structure NeedsListing (request : Request) (installed : String) : Prop where
  unsettled : Unsettled request installed
  unsourced : request.source = none

/-- Outcomes that differ at most in how a refusal of the feed is worded. -/
inductive SimilarOutcome :
    Except PlanError InstallPlan → Except PlanError InstallPlan → Prop
  | same {outcome : Except PlanError InstallPlan} : SimilarOutcome outcome outcome
  | reworded {left right : String} :
      SimilarOutcome (.error (.versionLookup (.listing (.invalidResponse left))))
        (.error (.versionLookup (.listing (.invalidResponse right))))

section

variable {planner : Planner} {source other : CandidateSource} {request : Request} {target : Instance}
  {disk : State}

/-- If a listing is needed, the question of the request is asked once. -/
theorem asked_of_needed
    (needed : NeedsListing request (current planner.installedRoot request.name disk)) :
    (planner.plan source request target disk).asked = [⟨request.name, target⟩] := by
  rw [asked_plan, decisionOn]
  obtain ⟨unsettled, unsourced⟩ := needed
  cases answer : source request.name target with
  | error cause => rw [decision_of_decides (.unlisted unsettled unsourced answer)]
  | ok candidates =>
    by_cases nothing : Version.latest planner.wanted candidates = ""
    · rw [decision_of_decides (.unpublished unsettled unsourced answer nothing)]
    · rw [decision_of_decides (.published unsettled unsourced answer nothing)]

/-- Otherwise nothing is asked. -/
theorem asked_of_not_needed
    (needless : ¬ NeedsListing request (current planner.installedRoot request.name disk)) :
    (planner.plan source request target disk).asked = [] := by
  rw [asked_plan, decisionOn]
  obtain ⟨decided, asked, decides⟩ :=
    exists_decides planner source request target (current planner.installedRoot request.name disk)
  rw [decision_of_decides decides]
  cases decides with
  | nameless | given | removed | bypassed => rfl
  | unlisted unsettled unsourced | unpublished unsettled unsourced | published unsettled unsourced =>
    exact absurd ⟨unsettled, unsourced⟩ needless

/-- Similar answers to the question of the request lead to similar results. -/
theorem plan_of_similar_answer (planner : Planner) (disk : State)
    (similar : Similar (source request.name target) (other request.name target)) :
    SimilarOutcome (planner.plan source request target disk).outcome
        (planner.plan other request target disk).outcome ∧
      (planner.plan source request target disk).disk = (planner.plan other request target disk).disk := by
  by_cases needed : NeedsListing request (current planner.installedRoot request.name disk)
  · generalize answered : source request.name target = answer,
      answeredOther : other request.name target = answerOther at similar
    cases similar with
    | same =>
      have alike : planner.plan source request target disk = planner.plan other request target disk := by
        apply plan_of_same_answers
        intro query asked
        rw [asked_of_needed needed] at asked
        obtain rfl := List.mem_singleton.mp asked
        exact answered.trans answeredOther.symm
      rw [alike]
      exact ⟨.same, rfl⟩
    | reworded =>
      obtain ⟨unsettled, unsourced⟩ := needed
      have refused := decision_of_decides
        (.unlisted unsettled unsourced answered : Decides planner source request target _ _ _)
      have refusedOther := decision_of_decides
        (.unlisted unsettled unsourced answeredOther : Decides planner other request target _ _ _)
      rw [plan_of_refused planner source request target (congrArg Prod.fst refused),
        plan_of_refused planner other request target (congrArg Prod.fst refusedOther)]
      exact ⟨.reworded, rfl⟩
  · have alike : planner.plan source request target disk = planner.plan other request target disk := by
      apply plan_of_same_answers
      intro query asked
      rw [asked_of_not_needed needed] at asked
      cases asked
    rw [alike]
    exact ⟨.same, rfl⟩

variable {network : Network} {address : Url.Address} {reply : Reply}

/-- Where the feed replies to the request for the manifest, it answers by the reply. -/
theorem source_of_replied {template : String}
    (sent : addressOf (Location.manifest template request.name target) = .ok address)
    (replied : network address = .replied reply) :
    Feed.source template network request.name target =
      readReply request.name address reply := by
  simp only [Feed.source, lookup, sent, replied]

/-- A listing that is needed sends one request to the feed. -/
theorem received_of_needed (planner : Planner)
    (sent : addressOf (Location.manifest planner.template request.name target) = .ok address)
    (replied : network address = .replied reply)
    (needed : NeedsListing request (current planner.installedRoot request.name disk)) :
    (planner.planFromFeed network request target disk).received = [address] := by
  simp only [Planner.planFromFeed, asked_of_needed needed, Planner.received, List.flatMap_cons,
    List.flatMap_nil, received, receivedFor, sent, replied, List.append_nil]

theorem received_of_not_needed (planner : Planner)
    (needless : ¬ NeedsListing request (current planner.installedRoot request.name disk)) :
    (planner.planFromFeed network request target disk).received = [] := by
  simp only [Planner.planFromFeed, asked_of_not_needed needless, Planner.received, List.flatMap_nil]

end

/-- Planning with the feed of a configuration has the outcome and leaves the disk of planning, below the
same roots and with the same template, with any candidate source that answers by the status of the reply
and by the manifest in it. The feed gets one request if a listing is needed, which is for the manifest of
the request, and otherwise none. -/
theorem planFromFeed_refines (config : Config) (environment : Environment) (wanted : Option String)
    (network : Network) (request : Request) (target : Instance) (disk : State)
    {address : Url.Address} {reply : Reply} {source : CandidateSource}
    (sent : addressOf (Location.manifest config.componentUrl request.name target) = .ok address)
    (replied : network address = .replied reply)
    (answers : Answers reply request.name (source request.name target)) :
    let fed := (Planner.ofConfig config environment wanted).planFromFeed network request target disk
    let planned := (Planner.mk (config.stagingRoot environment) (config.installedRoot environment)
      config.componentUrl wanted).plan source request target disk
    let installed := current (config.installedRoot environment) request.name disk
    SimilarOutcome fed.outcome planned.outcome ∧ fed.disk = planned.disk ∧
      (NeedsListing request installed → fed.received = [address]) ∧
      (¬ NeedsListing request installed → fed.received = []) := by
  intro fed planned installed
  have answered : Similar (Feed.source config.componentUrl network request.name target)
      (source request.name target) := by
    rw [source_of_replied sent replied]
    exact (answers_readReply address).similar answers
  let planner := Planner.ofConfig config environment wanted
  obtain ⟨outcome, after⟩ := plan_of_similar_answer planner disk answered
  exact ⟨outcome, after, received_of_needed planner sent replied, received_of_not_needed planner⟩

/-- A feed on this machine publishes three texts, of which the latest version is planned. -/
theorem planFromFeed_refines_on_this_machine :
    let config : Config :=
      ⟨"http://[::1]:8080/{Region}/Components", some ⟨"agent"⟩, 30000, false⟩
    let environment : Environment := ⟨⟨"/root"⟩, none⟩
    let target : Instance := ⟨"us-west-2", "windows", "", "amd64", "", "zip"⟩
    let request := Request.new "PVDriver" .install
    let reply : Reply :=
      ⟨200, .text "\x7b\"name\": \"PVDriver\", \"versions\": [\"7.2.0\", \"latest\", \"7.10.1\"]\x7d"⟩
    let address : Url.Address :=
      ⟨"http", none, some "[::1]", some 8080,
        "/us-west-2/Components/PVDriver/windows/amd64/PVDriver.json", none, none⟩
    let source : CandidateSource := fun _ _ => .ok ["7.2.0", "latest", "7.10.1"]
    let fed := (Planner.ofConfig config environment none).planFromFeed (fun _ => .replied reply)
      request target (State.plain .empty)
    let planned := (Planner.mk (config.stagingRoot environment) (config.installedRoot environment)
      config.componentUrl none).plan source request target (State.plain .empty)
    addressOf (Location.manifest config.componentUrl request.name target) = .ok address ∧
      Answers reply request.name (source request.name target) ∧
      SimilarOutcome fed.outcome planned.outcome ∧ fed.received = [address] ∧
      fed.outcome.map InstallPlan.version = .ok "7.10.1" := by
  intro config environment target request reply address source fed planned
  have sent : addressOf (Location.manifest config.componentUrl request.name target) = .ok address := by
    decide +kernel
  have decoded : manifestForm.decoder.ofText reply.document = .ok ["7.2.0", "latest", "7.10.1"] := by
    decide +kernel
  have answers : Answers reply request.name (source request.name target) :=
    .published ⟨by decide, by decide⟩ (versions_eq_ok_iff.mp decoded)
  have needed : NeedsListing request
      (current (config.installedRoot environment) request.name (State.plain .empty)) :=
    ⟨⟨⟨'P', by decide, by decide⟩, rfl, fun removal => by cases removal⟩, rfl⟩
  obtain ⟨outcome, -, received, -⟩ := planFromFeed_refines config environment none
    (fun _ => .replied reply) request target (State.plain .empty) sent rfl answers
  exact ⟨sent, answers, outcome, received needed, by decide +kernel⟩

end ComponentInstall.Planning
