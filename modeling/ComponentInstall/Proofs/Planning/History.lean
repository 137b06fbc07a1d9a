import ComponentInstall.Proofs.Planning.Containment
import ComponentInstall.Proofs.Planning.Settlement
import ComponentInstall.Proofs.Staging.Markers

/-!
# Installed versions over a whole history

A history is any sequence of operations on one disk that begins empty: versions are recorded and
cleared, folders staged and inspected, versions asked for and plans made, and a pipeline delivers
files into version folders. At each operation calls of the disk may be made to fail. What was done and
how it ended is kept in a log, and the log alone says what is remembered of each component: the text
of its last record, unless it was cleared since.

`Represents` says that the disk agrees with the log about every component. It holds of the empty disk
and is preserved by every operation, so the installed version is the remembered one at every point of
every history. Two things carry the argument. Version folders and markers lie in different folders of
the base, whatever components and versions are called. And a plan may take its version from a marker
or from a candidate source, but both only ever give single names.
-/

namespace ComponentInstall.Planning

open Disk Feed Staging

/-- What can be done with components. Delivering puts a file beneath a version folder. -/
inductive Operation
  | record (name text : String)
  | clear (name : String)
  | stage (name version : String)
  | inspect (name version : String)
  | query (name : String)
  | plan (wanted : Option String) (source : CandidateSource) (request : Request) (target : Instance)
  | deliver (name version : String) (inner : Path) (content : Content)

/-- How an operation ends. -/
inductive Answer
  | success
  | failure
  | staged (found : Bool)
  | installed (version : String)
deriving DecidableEq, Repr

def Answer.ofResult {ε α : Type} (result : Except ε α) : Answer :=
  if result.isOk then .success else .failure

/-- An operation, and the calls of the disk that fail meanwhile. -/
structure Event where
  operation : Operation
  faults : Call → Path → Option IoError

/-- Operations and how they ended, the last one first. -/
abbrev Log := List (Operation × Answer)

/-- The text that was last recorded of a component and not cleared since. -/
def lastRecord : Log → String → Option String
  | [], _ => none
  | (.record recorded text, .success) :: earlier, name =>
    if recorded = name then some text else lastRecord earlier name
  | (.clear cleared, .success) :: earlier, name =>
    if cleared = name then none else lastRecord earlier name
  | _ :: earlier, name => lastRecord earlier name

/-- A disk and what was done on it. -/
structure History where
  disk : State
  log : Log

/-- A text that holds a single name between blanks, or nothing. -/
def Recordable (text : String) : Prop := Text.trim text = "" ∨ NormalSegment (Text.trim text)

/-- Names and versions are single names in a path, and so is what is recorded. A delivered file lies
beneath its version folder. -/
def Operation.Plain : Operation → Prop
  | .record name text => NormalSegment name ∧ Recordable text
  | .clear name => NormalSegment name
  | .stage name version => NormalSegment name ∧ NormalSegment version
  | .inspect _ _ | .query _ => True
  | .plan _ _ request _ =>
    NormalSegment request.name ∧ ∀ version, request.version = some version → NormalSegment version
  | .deliver name version inner _ =>
    NormalSegment name ∧ NormalSegment version ∧ ¬ inner.Absolute ∧ ['.', '.'] ∉ inner.segments

/-- An event that may happen: its operation is plain, and no removal is made to fail as if the file
were missing. -/
structure Event.Admissible (event : Event) : Prop where
  plain : event.operation.Plain
  honest : ∀ path fault, event.faults .removeFile path = some fault → fault.kind ≠ .notFound

section

variable (config : Config) (environment : Environment)

/-- Performs an operation on a disk. -/
def perform (disk : State) : Operation → Answer × State
  | .record name text =>
    let recorded := Staging.record (config.installedRoot environment) name text disk
    (.ofResult recorded.1, recorded.2)
  | .clear name =>
    let cleared := Staging.clear (config.installedRoot environment) name disk
    (.ofResult cleared.1, cleared.2)
  | .stage name version =>
    let made := createFolder (config.stagingRoot environment) name version disk
    (.ofResult made.1, made.2)
  | .inspect name version =>
    (.staged (hasPackage (config.stagingRoot environment) name version disk), disk)
  | .query name => (.installed (current (config.installedRoot environment) name disk), disk)
  | .plan wanted source request target =>
    let planned := (Planner.ofConfig config environment wanted).plan source request target disk
    (.ofResult planned.outcome, planned.disk)
  | .deliver name version inner content =>
    let put := disk.put ((folder (config.stagingRoot environment) name version).join inner) content
    (.ofResult put.1, put.2)

/-- Goes on with an event. -/
def History.next (history : History) (event : Event) : History :=
  let performed :=
    perform config environment (history.disk.withFaults event.faults) event.operation
  ⟨performed.2, (event.operation, performed.1) :: history.log⟩

/-- The history of some events on an empty disk. -/
def History.ofEvents (events : List Event) : History :=
  events.foldl (History.next config environment) ⟨.plain .empty, []⟩

/-- The disk of a history agrees with its log. -/
structure Represents (history : History) : Prop where
  agrees : ∀ name, NormalSegment name → Agrees (config.installedRoot environment)
    history.disk.tree name (lastRecord history.log name)
  plain : ∀ name text, lastRecord history.log name = some text → Recordable text

end

section

variable {config : Config} {environment : Environment} {history : History}

theorem represents_empty : Represents config environment ⟨.plain .empty, []⟩ where
  agrees _ _ := rfl
  plain _ _ recorded := by cases recorded

/-- A change that spares some markers, and leaves the others as they are to be remembered, goes on
representing the log. -/
theorem Represents.advance (represents : Represents config environment history) {disk : State}
    {log : Log} (spared : String → Prop)
    (spares : Spares (config.installedRoot environment) spared history.disk.tree disk.tree)
    (same : ∀ name, spared name → lastRecord log name = lastRecord history.log name)
    (own : ∀ name, ¬ spared name →
      Agrees (config.installedRoot environment) disk.tree name (lastRecord log name) ∧
        ∀ text, lastRecord log name = some text → Recordable text) :
    Represents config environment ⟨disk, log⟩ := by
  constructor
  · intro name normal
    by_cases member : spared name
    · rw [same name member]
      exact agrees_of_spares normal spares member (represents.agrees name normal)
    · exact (own name member).1
  · intro name text recorded
    by_cases member : spared name
    · exact represents.plain name text ((same name member).symm.trans recorded)
    · exact (own name member).2 text recorded

/-- A change that spares all markers goes on representing a log that remembers the same. -/
theorem Represents.keep {disk : State} {log : Log} (represents : Represents config environment history)
    (spares : Spares (config.installedRoot environment) (fun _ => True) history.disk.tree disk.tree)
    (same : ∀ name, lastRecord log name = lastRecord history.log name) :
    Represents config environment ⟨disk, log⟩ :=
  represents.advance (fun _ => True) spares (fun name _ => same name)
    fun _ notSpared => absurd trivial notSpared

/-- A change to a single marker goes on representing a log that remembers the new one. -/
theorem Represents.replace (represents : Represents config environment history) {disk : State}
    {log : Log} {name : String} {remembered : Option String}
    (spares : Spares (config.installedRoot environment) (· ≠ name) history.disk.tree disk.tree)
    (agrees : Agrees (config.installedRoot environment) disk.tree name remembered)
    (recordable : ∀ text, remembered = some text → Recordable text)
    (logged : ∀ other, lastRecord log other =
      if name = other then remembered else lastRecord history.log other) :
    Represents config environment ⟨disk, log⟩ := by
  refine represents.advance (· ≠ name) spares ?_ ?_
  · intro other differs
    rw [logged, if_neg (Ne.symm differs)]
  · intro other same
    obtain rfl : other = name := not_not.mp same
    rw [logged, if_pos rfl]
    exact ⟨agrees, recordable⟩

theorem disk_createFolder (root : Path) (name version : String) (disk : State) :
    (createFolder root name version disk).2 = (disk.createFolders (folder root name version)).2 := by
  rw [createFolder_eq]

/-- A plan is made for a single name, wherever its version comes from. -/
theorem normal_of_settled (represents : Represents config environment history)
    {wanted : Option String} {source : CandidateSource} {request : Request} {target : Instance}
    {faults : Call → Path → Option IoError} {version : String}
    (plain : (Operation.plan wanted source request target).Plain)
    (settled : (decisionOn (Planner.ofConfig config environment wanted) source request target
      (history.disk.withFaults faults)).1 = .ok version) : NormalSegment version := by
  obtain ⟨normal, explicit⟩ := plain
  have installed : current (config.installedRoot environment) request.name
        (history.disk.withFaults faults) = "" ∨
      NormalSegment (current (config.installedRoot environment) request.name
        (history.disk.withFaults faults)) := by
    rcases current_of_agrees_or_empty (history.disk.withFaults faults) normal
      (represents.agrees request.name normal) with same | empty
    · rw [same]
      cases recorded : lastRecord history.log request.name with
      | none => exact Or.inl rfl
      | some text => exact represents.plain request.name text recorded
    · exact Or.inl empty
  exact normal_of_decision settled explicit installed

variable {names : Place} (straight : (config.base environment).way = names.map .into)

include straight

/-- Version folders lie beside the markers. -/
theorem beside_folder {name version : String} (normalName : NormalSegment name)
    (normalVersion : NormalSegment version) :
    Beside (config.installedRoot environment)
      (folder (config.stagingRoot environment) name version) :=
  beside_of_inside (installedRoot_straight straight)
    (folder_straight straight normalName normalVersion)
    (List.suffix_append [version, name] ("components" :: names)) (by decide)

/-- What is delivered lies beside the markers. -/
theorem beside_delivered {name version : String} (normalName : NormalSegment name)
    (normalVersion : NormalSegment version) {inner : Path} (relative : ¬ inner.Absolute)
    (innerStraight : ['.', '.'] ∉ inner.segments) :
    Beside (config.installedRoot environment)
      ((folder (config.stagingRoot environment) name version).join inner) := by
  obtain ⟨within, way⟩ := Path.way_of_straight innerStraight
  have places : ((folder (config.stagingRoot environment) name version).join inner).way =
      (within ++ [version, name] ++ "components" :: names).map .into := by
    rw [Path.way_join _ relative, folder_straight straight normalName normalVersion, way]
    simp
  exact beside_of_inside (installedRoot_straight straight) places (List.suffix_append _ _)
    (by decide)

/-- Recording goes on representing the log. -/
theorem represents_record (represents : Represents config environment history) {name text : String}
    {faults : Call → Path → Option IoError} (plain : (Operation.record name text).Plain) :
    Represents config environment (history.next config environment ⟨.record name text, faults⟩) := by
  obtain ⟨normal, recordable⟩ := plain
  obtain ⟨after, disk, ⟨failed, spares⟩ | ⟨done, spares, agrees⟩⟩ :=
    record_cases (installedRoot_straight straight) normal text
      (history.disk.withFaults faults)
  · simp only [History.next, perform, disk, Answer.ofResult, failed, Bool.false_eq_true, if_false]
    exact represents.keep spares fun _ => rfl
  · simp only [History.next, perform, disk, Answer.ofResult, done, if_true]
    refine represents.replace spares agrees ?_ fun _ => rfl
    rintro _ ⟨⟩
    exact recordable

/-- Clearing goes on representing the log. -/
theorem represents_clear (represents : Represents config environment history) {name : String}
    {faults : Call → Path → Option IoError} (normal : NormalSegment name)
    (honest : ∀ path fault, faults .removeFile path = some fault → fault.kind ≠ .notFound) :
    Represents config environment (history.next config environment ⟨.clear name, faults⟩) := by
  obtain ⟨after, disk, ⟨failed, rfl⟩ | ⟨done, spares, agrees⟩⟩ :=
    clear_cases (installedRoot_straight straight) normal (history.disk.withFaults faults) (honest _)
  · simp only [History.next, perform, disk, Answer.ofResult, failed, Bool.false_eq_true, if_false]
    exact represents.keep (.refl _) fun _ => rfl
  · simp only [History.next, perform, disk, Answer.ofResult, done, if_true]
    refine represents.replace spares agrees ?_ fun _ => rfl
    rintro _ ⟨⟩

/-- Making a version folder goes on representing the log, whatever it is made for. -/
theorem represents_folder (represents : Represents config environment history)
    {name version : String} {faults : Call → Path → Option IoError} {log : Log}
    (normalName : NormalSegment name) (normalVersion : NormalSegment version)
    (same : ∀ name, lastRecord log name = lastRecord history.log name) :
    Represents config environment ⟨((history.disk.withFaults faults).createFolders
      (folder (config.stagingRoot environment) name version)).2, log⟩ := by
  have spares := createFolders_spares (beside_folder straight normalName normalVersion)
    (history.disk.withFaults faults)
  exact represents.keep spares same

/-- An event goes on representing the log. -/
theorem represents_next (represents : Represents config environment history) {event : Event}
    (admissible : event.Admissible) :
    Represents config environment (history.next config environment event) := by
  obtain ⟨plain, honest⟩ := admissible
  obtain ⟨operation, faults⟩ := event
  cases operation with
  | record name text => exact represents_record straight represents plain
  | clear name => exact represents_clear straight represents plain honest
  | stage name version =>
    obtain ⟨normalName, normalVersion⟩ := plain
    simp only [History.next, perform, disk_createFolder]
    exact represents_folder straight represents normalName normalVersion fun _ => rfl
  | inspect name version => exact represents.keep (.refl _) fun _ => rfl
  | query name => exact represents.keep (.refl _) fun _ => rfl
  | plan wanted source request target =>
    have same (answer : Answer) (name : String) : lastRecord
        ((.plan wanted source request target, answer) :: history.log) name
          = lastRecord history.log name := rfl
    simp only [History.next, perform]
    cases decided : (decisionOn (Planner.ofConfig config environment wanted) source request target
        (history.disk.withFaults faults)).1 with
    | error error =>
      rw [plan_of_refused _ source request target decided]
      exact represents.keep (.refl _) (same _)
    | ok version =>
      rw [plan_of_settled _ source request target decided]
      simp only [disk_stage]
      exact represents_folder straight represents plain.1
        (normal_of_settled represents plain decided) (same _)
  | deliver name version inner content =>
    obtain ⟨normalName, normalVersion, relative, innerStraight⟩ := plain
    obtain ⟨after, disk, spares⟩ := put_spares
      (beside_delivered straight normalName normalVersion relative innerStraight) content
      (history.disk.withFaults faults)
    simp only [History.next, perform, disk]
    exact represents.keep spares fun _ => rfl

/-- Any number of events go on representing the log. -/
theorem represents_foldl (represents : Represents config environment history) {events : List Event}
    (admissible : ∀ event ∈ events, event.Admissible) :
    Represents config environment (events.foldl (History.next config environment) history) := by
  induction events generalizing history with
  | nil => exact represents
  | cons event rest inductionHypothesis =>
    have first : event.Admissible := admissible event List.mem_cons_self
    have later : ∀ other ∈ rest, other.Admissible := fun other member =>
      admissible other (List.mem_cons_of_mem event member)
    exact inductionHypothesis (represents_next straight represents first) later

end

/-- At every point of every history at which reading does not fail, the installed version of a
component is the one of its last record that succeeded, without the blanks around it, if it was not
cleared since, and the empty text otherwise. -/
theorem current_eq_remembered (config : Config) (environment : Environment)
    (straight : ['.', '.'] ∉ (config.base environment).segments)
    (events : List Event) (admissible : ∀ event ∈ events, event.Admissible) (name : String)
    (normal : NormalSegment name) (faults : Call → Path → Option IoError)
    (readable : faults .readText ((config.installedRoot environment).join ⟨name⟩) = none) :
    current (config.installedRoot environment) name
        ((History.ofEvents config environment events).disk.withFaults faults) =
      versionOf (lastRecord (History.ofEvents config environment events).log name) := by
  obtain ⟨names, way⟩ := Path.way_of_straight straight
  have represents := represents_foldl way represents_empty admissible
  exact current_of_agrees normal (represents.agrees name normal) readable

/-- A version is planned, delivered and recorded, and a later record of another one fails. -/
def session : List Event :=
  [ ⟨.plan none (fun _ _ => .ok ["9000.0.0"]) (Request.new "PVDriver" .install) .unknown,
      fun _ _ => none⟩,
    ⟨.deliver "PVDriver" "9000.0.0" ⟨"setup.exe"⟩ (.text "MZ"), fun _ _ => none⟩,
    ⟨.record "PVDriver" "9000.0.0\n", fun _ _ => none⟩,
    ⟨.record "PVDriver" "1.0.0", fun call _ => if call = .writeText then some .missing else none⟩ ]

theorem current_eq_remembered_of_session :
    current (agent.installedRoot ⟨⟨""⟩, none⟩) "PVDriver"
        ((History.ofEvents agent ⟨⟨""⟩, none⟩ session).disk.withFaults fun _ _ => none) =
      "9000.0.0" := by
  have normal : NormalSegment "PVDriver" := by constructor <;> decide
  have normalVersion : NormalSegment "9000.0.0" := by constructor <;> decide
  have admissible : ∀ event ∈ session, event.Admissible := by
    intro event member
    simp only [session, List.mem_cons, List.not_mem_nil, or_false] at member
    rcases member with rfl | rfl | rfl | rfl
    · exact ⟨⟨normal, fun _ explicit => by cases explicit⟩, fun _ _ arranged => by cases arranged⟩
    · exact ⟨⟨normal, normalVersion, by decide, by decide⟩, fun _ _ arranged => by cases arranged⟩
    · exact ⟨⟨normal, Or.inr normalVersion⟩, fun _ _ arranged => by cases arranged⟩
    · exact ⟨⟨normal, Or.inr (by constructor <;> decide)⟩, fun _ _ arranged => by cases arranged⟩
  rw [current_eq_remembered agent ⟨⟨""⟩, none⟩ (by decide) session admissible "PVDriver" normal
    (fun _ _ => none) rfl]
  decide +kernel

end ComponentInstall.Planning
