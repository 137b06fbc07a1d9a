import ComponentInstall.Proofs.CommandLine.Failure
import ComponentInstall.Proofs.Json.Printing

/-!
# The printed plan

What a `plan` command prints is decided by the way in which it ends: the plan as a document with a line
break behind it, or nothing. The document is an object with one member for each part of the plan, and
reading it gives back every part as it is, whatever texts the parts are. So a printed plan can be used in
place of the plan, and different plans are printed differently.
-/

namespace ComponentInstall.CommandLine

open Disk (State Path)

open Feed Json Planning

/-- What is printed by a `plan` command that ends in some way. -/
def Exit.output : Exit → String
  | .planned plan => plan.toJson.pretty ++ "\n"
  | _ => ""

/-- What stands for the manifest in a document. -/
def manifestValue : Option String → Value
  | none => .null
  | some url => .text url

/-- The members of an object are the parts of a plan, and there are no others. -/
structure Shows (members : List (String × Value)) (plan : InstallPlan) : Prop where
  keys : (members.map Prod.fst).Perm
    ["name", "action", "version", "installedVersion", "alreadyInstalled", "manifestUrl", "packageUrl",
      "stagingPath", "packageStaged"]
  name : members.lookup "name" = some (.text plan.name)
  action : members.lookup "action" = some (.text plan.action.text)
  version : members.lookup "version" = some (.text plan.version)
  installedVersion : members.lookup "installedVersion" = some (.text plan.installedVersion)
  alreadyInstalled : members.lookup "alreadyInstalled" = some (.boolean plan.alreadyInstalled)
  manifestUrl : members.lookup "manifestUrl" = some (manifestValue plan.manifestUrl)
  packageUrl : members.lookup "packageUrl" = some (.text plan.packageUrl)
  stagingPath : members.lookup "stagingPath" = some (.text plan.stagingPath.text)
  packageStaged : members.lookup "packageStaged" = some (.boolean plan.packageStaged)

/-- The members of a printed plan in the order of their keys. -/
def printedMembers (plan : InstallPlan) : List (String × Value) :=
  [("action", .text plan.action.text), ("alreadyInstalled", .boolean plan.alreadyInstalled),
    ("installedVersion", .text plan.installedVersion),
    ("manifestUrl", manifestValue plan.manifestUrl), ("name", .text plan.name),
    ("packageStaged", .boolean plan.packageStaged), ("packageUrl", .text plan.packageUrl),
    ("stagingPath", .text plan.stagingPath.text), ("version", .text plan.version)]

theorem manifestValue_injective : Function.Injective manifestValue := by
  intro one other same
  cases one <;> cases other <;> cases same <;> rfl

theorem action_text_injective : Function.Injective Action.text := by
  intro one other same
  cases one <;> cases other <;> first | rfl | exact absurd same (by decide)

theorem ordered_toJson (plan : InstallPlan) : plan.toJson.ordered = .object (printedMembers plan) := by
  obtain ⟨name, action, version, installedVersion, alreadyInstalled, manifestUrl, packageUrl,
    stagingPath, packageStaged⟩ := plan
  cases manifestUrl <;> rfl

theorem wordy_toJson (plan : InstallPlan) : Wordy Reader.depthLimit plan.toJson := by
  have manifest (url : Option String) : Wordy 126 ((url.map Value.text).getD .null) := by
    cases url with
    | none => exact .null
    | some url => exact .text url
  refine .object ?_
  simp only [List.forall_mem_cons, List.not_mem_nil, false_imp_iff, implies_true, and_true]
  exact ⟨.text _, .text _, .text _, .text _, .boolean _, manifest _, .text _, .text _, .boolean _⟩

theorem shows_printedMembers (plan : InstallPlan) : Shows (printedMembers plan) plan where
  keys := by
    show List.Perm ["action", "alreadyInstalled", "installedVersion", "manifestUrl", "name",
      "packageStaged", "packageUrl", "stagingPath", "version"] _
    decide
  name := rfl
  action := rfl
  version := rfl
  installedVersion := rfl
  alreadyInstalled := rfl
  manifestUrl := rfl
  packageUrl := rfl
  stagingPath := rfl
  packageStaged := rfl

/-- Members show one plan. -/
theorem Shows.unique {members : List (String × Value)} {plan other : InstallPlan}
    (shows : Shows members plan) (again : Shows members other) : plan = other := by
  have sameText {key one two : String} (found : members.lookup key = some (.text one))
      (foundAgain : members.lookup key = some (.text two)) : one = two :=
    Value.text.inj (Option.some.inj (found.symm.trans foundAgain))
  have sameTruth {key : String} {one two : Bool} (found : members.lookup key = some (.boolean one))
      (foundAgain : members.lookup key = some (.boolean two)) : one = two :=
    Value.boolean.inj (Option.some.inj (found.symm.trans foundAgain))
  obtain ⟨name, action, version, installedVersion, alreadyInstalled, manifestUrl, packageUrl,
    stagingPath, packageStaged⟩ := plan
  obtain rfl := sameText shows.name again.name
  obtain rfl := action_text_injective (sameText shows.action again.action)
  obtain rfl := sameText shows.version again.version
  obtain rfl := sameText shows.installedVersion again.installedVersion
  obtain rfl := sameTruth shows.alreadyInstalled again.alreadyInstalled
  obtain rfl := manifestValue_injective
    (Option.some.inj (shows.manifestUrl.symm.trans again.manifestUrl))
  obtain rfl := sameText shows.packageUrl again.packageUrl
  obtain rfl : stagingPath = other.stagingPath :=
    congrArg Disk.Path.mk (sameText shows.stagingPath again.stagingPath)
  obtain rfl := sameTruth shows.packageStaged again.packageStaged
  rfl

/-- A plan as a document is read back as its members. -/
theorem ofText_printed (plan : InstallPlan) :
    Value.ofText plan.toJson.pretty = .ok (.object (printedMembers plan)) := by
  rw [Value.ofText_pretty (wordy_toJson plan), ordered_toJson]

/-- The way in which a command ends decides what it prints. -/
theorem output_of_ends {environment : Environment} {network : Network} {journal : Journal}
    {path : Option Path} {options : PlanOptions} {disk : State} {exit : Exit}
    (ends : Ends environment network journal path options disk exit) :
    (perform environment network journal ⟨path, .plan options⟩ disk).output = exit.output := by
  have clean := endsCleanly_of_ends ends
  cases ends with
  | planned loading settled requested planning =>
    obtain ⟨warnings, after, performed, -⟩ :=
      perform_of_logSettled network (.plan options) loading settled
    obtain ⟨received, behind, ran⟩ := runPlan_of_planned requested planning
    rw [performed, runCommand_plan, ran]
    rfl
  | _ => exact clean.silent (by simp [Exit.code])

/-- A `plan` command prints what the way in which it ends tells: nothing, or its plan. A printed plan is a
document with one line break behind it. The document is an object that shows the plan, part by part, and
so two plans are printed alike only if they are the same. -/
theorem printed_plan_reads_back :
    (∀ environment network journal path options disk,
      (perform environment network journal ⟨path, .plan options⟩ disk).output =
        (exitOf environment network journal path options disk).output) ∧
    (∀ plan, ∃ document inside members, (Exit.planned plan).output = document ++ "\n" ∧
      document.toList = '\x7b' :: (inside ++ ['\x7d']) ∧
      Value.ofText document = .ok (.object members) ∧ Shows members plan) ∧
    ∀ plan other, (Exit.planned plan).output = (Exit.planned other).output ↔ plan = other := by
  refine ⟨fun environment network journal path options disk => ?_, fun plan => ?_,
    fun plan other => ⟨?_, ?_⟩⟩
  · obtain ⟨exit, ends⟩ := exists_ends environment network journal path options disk
    rw [output_of_ends ends, exitOf_of_ends ends]
  · have between : ∃ inside, plan.toJson.pretty.toList = '\x7b' :: (inside ++ ['\x7d']) := by
      rw [Value.pretty, String.toList_ofList]
      exact written_object 0 _
    obtain ⟨inside, whole⟩ := between
    exact ⟨plan.toJson.pretty, inside, printedMembers plan, rfl, whole, ofText_printed plan,
      shows_printedMembers plan⟩
  · intro same
    have documents : plan.toJson.pretty = other.toJson.pretty := (String.append_left_inj "\n").mp same
    have read := ofText_printed plan
    rw [documents, ofText_printed other] at read
    have members := Value.object.inj (Except.ok.inj read)
    exact (shows_printedMembers plan).unique (members ▸ shows_printedMembers other)
  · exact fun same => same ▸ rfl

end ComponentInstall.CommandLine
