import ComponentInstall.Proofs.Disk.Exact
import ComponentInstall.Proofs.Planning.Containment
import ComponentInstall.Proofs.Planning.Settlement
import ComponentInstall.Proofs.Staging.Folders
import ComponentInstall.Proofs.Staging.Recording

/-!
# Plans in any order

Requests can be planned one after the other in any order. Every one of them gets the plan or the error
that it would get alone, and the folders that are made add up to the same tree.

Planning looks at three things on the disk. What is installed stays the same, because new folders never
lie on the way to a marker. Whether a version folder can be made, and which folders are made for it, is
a matter of the files and of the names, and the files stay the same too. Whether the folder holds a
package depends on the places one name deeper, and nobody makes a folder there, because all versions are
single names. So every request adds the folders that it would add alone, whatever others added before,
and also if it stops half way.
-/

namespace ComponentInstall.Planning

open Disk Feed Staging

/-- A request for an instance, the candidate source that is asked for it, and how what the source
publishes is narrowed. -/
structure Job where
  wanted : Option String
  source : CandidateSource
  request : Request
  target : Instance

section

variable (config : Config) (environment : Environment)

namespace Job

/-- Plans a job. -/
def plan (job : Job) (disk : State) : Planned :=
  (Planner.ofConfig config environment job.wanted).plan job.source job.request job.target disk

/-- The component of a job is a single name in a path, and so is every version that the request or the
marker of the component can give. -/
structure Plain (disk : State) (job : Job) : Prop where
  named : NormalSegment job.request.name
  explicit : ∀ version, job.request.version = some version → NormalSegment version
  marked : current (config.installedRoot environment) job.request.name disk = "" ∨
    NormalSegment (current (config.installedRoot environment) job.request.name disk)

/-- The version that is settled for a job. -/
def settled (job : Job) (disk : State) : Except PlanError String :=
  (decisionOn (Planner.ofConfig config environment job.wanted) job.source job.request job.target
    disk).1

/-- The staging folder of a version for a job. -/
def folder (job : Job) (version : String) : Disk.Path :=
  Staging.folder (config.stagingRoot environment) job.request.name version

/-- The places where a job adds folders. -/
def makes (disk : State) (job : Job) (place : Place) : Prop :=
  ∃ version, job.settled config environment disk = .ok version ∧
    disk.makes (job.folder config environment version) place

end Job

/-- Plans some jobs, one after the other. -/
def planAll : List Job → State → List (Except PlanError InstallPlan) × State
  | [], disk => ([], disk)
  | job :: rest, disk =>
    let planned := job.plan config environment disk
    let later := planAll rest planned.disk
    (planned.outcome :: later.1, later.2)

end

section

variable {config : Config} {environment : Environment} {disk : State} {job : Job} {tree : Tree}
  {added : Place → Prop} {version : String}

theorem Job.normal_of_settled (plain : job.Plain config environment disk)
    (settled : job.settled config environment disk = .ok version) : NormalSegment version :=
  normal_of_decision settled plain.explicit plain.marked

/-- A job whose version has no folder fails for the reason that making it had. -/
theorem Job.outcome_of_unmade {cause : IoError}
    (settled : job.settled config environment disk = .ok version)
    (refused : (disk.createFolders (job.folder config environment version)).1 = .error cause) :
    (job.plan config environment disk).outcome =
      .error (.staging (.createFolder (job.folder config environment version) cause)) := by
  rw [plan, plan_of_settled _ _ _ _ settled]
  exact (stage_error_iff _ _ _ _ version disk _).mpr ⟨cause, refused, rfl⟩

/-- A job whose version has a folder has a plan. -/
theorem Job.outcome_of_made (settled : job.settled config environment disk = .ok version)
    (made : (disk.createFolders (job.folder config environment version)).1 = .ok ()) :
    (job.plan config environment disk).outcome =
      .ok ((Planner.ofConfig config environment job.wanted).assemble job.request job.target
        (current (config.installedRoot environment) job.request.name disk) version
        (hasPackage (config.stagingRoot environment) job.request.name version
          (disk.createFolders (job.folder config environment version)).2)) := by
  have whole : disk.createFolders (job.folder config environment version) =
      (.ok (), (disk.createFolders (job.folder config environment version)).2) := Prod.ext made rfl
  rw [plan, plan_of_settled _ _ _ _ settled,
    stage_of_made (Planner.ofConfig config environment job.wanted) job.request job.target _ whole]
  rfl

/-- A job leaves the folders behind that it makes. -/
theorem Job.adds_plan (config : Config) (environment : Environment) (job : Job) (disk : State) :
    (job.plan config environment disk).disk
        = disk.withTree (job.plan config environment disk).disk.tree ∧
      Tree.Adds (job.makes config environment disk) disk.tree
        (job.plan config environment disk).disk.tree := by
  cases settled : job.settled config environment disk with
  | error error =>
    have nothing : job.makes config environment disk = fun _ => False := by
      funext place
      simp [makes, settled]
    rw [plan, plan_of_refused _ _ _ _ settled, nothing]
    exact ⟨rfl, .nowhere disk.tree⟩
  | ok version =>
    have same : job.makes config environment disk =
        disk.makes (job.folder config environment version) := by
      funext place
      simp [makes, settled]
    rw [plan, plan_of_settled _ _ _ _ settled, disk_stage, same]
    exact ⟨(disk.createFolders_grows _).1, disk.adds_createFolders _⟩

variable {names : Place} (straight : (config.base environment).way = names.map .into)

include straight

/-- No job makes a folder inside the folder of a version. -/
theorem Job.length_le_of_makes (plain : job.Plain config environment disk) {place : Place}
    (makes : job.makes config environment disk place) : place.length ≤ names.length + 3 := by
  obtain ⟨version, settled, made⟩ := makes
  have shallow := State.length_le_of_makes made
  have way : (job.folder config environment version).way = _ :=
    folder_straight straight plain.named (Job.normal_of_settled plain settled)
  rw [way, List.length_map] at shallow
  exact shallow

variable (plain : job.Plain config environment disk) (adds : Tree.Adds added disk.tree tree)

include plain adds

/-- What is installed is what was installed before others added folders. -/
theorem Job.current_of_adds :
    current (config.installedRoot environment) job.request.name (disk.withTree tree) =
      current (config.installedRoot environment) job.request.name disk := by
  have marker : (marker (config.installedRoot environment) job.request.name).way =
      (job.request.name :: "installed" :: names).map .into := by
    rw [Staging.marker, Path.way_join_normal _ plain.named, installedRoot_straight straight]
    rfl
  exact current_of_gains adds.gains marker

theorem Job.settled_of_adds :
    job.settled config environment (disk.withTree tree) = job.settled config environment disk := by
  have installed := Job.current_of_adds straight plain adds
  rw [settled, settled, decisionOn, decisionOn, Planner.ofConfig, installed]

/-- Where a job adds folders does not depend on what others added. -/
theorem Job.makes_of_adds :
    job.makes config environment (disk.withTree tree) = job.makes config environment disk := by
  funext place
  simp only [makes, Job.settled_of_adds straight plain adds, State.makes_of_gains adds.gains]

/-- The folder of a version is made or refused alike. -/
theorem Job.createFolders_of_adds (normal : NormalSegment version) :
    ((disk.withTree tree).createFolders (job.folder config environment version)).1 =
      (disk.createFolders (job.folder config environment version)).1 := by
  have named (route : Route) (followed : (job.folder config environment version).route = .ok route) :
      route = ⟨(job.request.name :: "components" :: names).map .into, .entry version false⟩ := by
    rw [← component_straight straight plain.named]
    exact Path.route_join_normal normal followed
  exact State.createFolders_of_gains adds.gains named

variable (shallow : ∀ place, added place → place.length ≤ names.length + 3)

include shallow

/-- A version folder that can be made holds a package or not, whatever others added. -/
theorem Job.hasPackage_of_adds (settled : job.settled config environment disk = .ok version)
    (made : (disk.createFolders (job.folder config environment version)).1 = .ok ()) :
    hasPackage (config.stagingRoot environment) job.request.name version
        ((disk.withTree tree).createFolders (job.folder config environment version)).2 =
      hasPackage (config.stagingRoot environment) job.request.name version
        (disk.createFolders (job.folder config environment version)).2 := by
  have normal := Job.normal_of_settled plain settled
  have way : (job.folder config environment version).way =
      (version :: job.request.name :: "components" :: names).map .into :=
    folder_straight straight plain.named normal
  have madeLater := (Job.createFolders_of_adds straight plain adds normal).trans made
  obtain ⟨-, empty | ⟨route, followed⟩⟩ := State.route_of_createFolders made
  · cases way.symm.trans (Path.way_of_empty empty)
  have here {tree : Tree} {place : Place}
      (reached : tree.reach (job.folder config environment version).way = .ok place) :
      place = version :: job.request.name :: "components" :: names := by
    rw [Tree.eq_destination_of_reach reached, way, destination_map_into]
  obtain ⟨place, reached⟩ := State.reach_of_createFolders followed made
  obtain ⟨placeLater, reachedLater⟩ := State.reach_of_createFolders followed madeLater
  obtain rfl := here reached
  obtain rfl := here reachedLater
  rw [((disk.withTree tree).createFolders_grows _).1, (disk.createFolders_grows _).1]
  apply hasPackage_congr followed reachedLater reached
  -- Nobody makes a folder inside that of a version.
  intro child
  have deeper : (job.folder config environment version).way.length <
      (child :: version :: job.request.name :: "components" :: names).length := by simp [way]
  have notAdded : ¬ added (child :: version :: job.request.name :: "components" :: names) := by
    intro inside
    have short := shallow _ inside
    simp only [List.length_cons] at short
    omega
  have later := (disk.withTree tree).find_createFolders_of_deeper deeper
  have first := disk.find_createFolders_of_deeper deeper
  exact later.trans ((adds.find_eq_none_iff notAdded).trans first.symm)

/-- A job has the same outcome, whatever others added. -/
theorem Job.outcome_of_adds :
    (job.plan config environment (disk.withTree tree)).outcome =
      (job.plan config environment disk).outcome := by
  have same := Job.settled_of_adds straight plain adds
  cases settled : job.settled config environment disk with
  | error error =>
    rw [plan, plan, plan_of_refused _ _ _ _ settled, plan_of_refused _ _ _ _ (same.trans settled)]
  | ok version =>
    have settledLater := same.trans settled
    have answer := Job.createFolders_of_adds straight plain adds
      (Job.normal_of_settled plain settled)
    cases made : (disk.createFolders (job.folder config environment version)).1 with
    | error cause =>
      rw [Job.outcome_of_unmade settled made,
        Job.outcome_of_unmade settledLater (answer.trans made)]
    | ok done =>
      rw [Job.outcome_of_made settled made, Job.outcome_of_made settledLater (answer.trans made),
        Job.current_of_adds straight plain adds,
        Job.hasPackage_of_adds straight plain adds shallow settled made]

omit plain in
/-- Jobs that are planned one after the other have the outcomes that they have alone, and add the
folders that they add alone. -/
theorem planAll_of_adds {jobs : List Job} (plain : ∀ job ∈ jobs, job.Plain config environment disk) :
    (planAll config environment jobs (disk.withTree tree)).1 =
        jobs.map (fun job => (job.plan config environment disk).outcome) ∧
      Tree.Adds (fun place => ∃ job ∈ jobs, job.makes config environment disk place) tree
        (planAll config environment jobs (disk.withTree tree)).2.tree := by
  induction jobs generalizing tree added with
  | nil =>
    simp only [List.not_mem_nil, false_and, exists_false]
    exact ⟨rfl, .nowhere tree⟩
  | cons job rest inductionHypothesis =>
    obtain ⟨plainJob, plainRest⟩ := List.forall_mem_cons.mp plain
    have outcome := Job.outcome_of_adds straight plainJob adds shallow
    obtain ⟨same, own⟩ := job.adds_plan config environment (disk.withTree tree)
    rw [Job.makes_of_adds straight plainJob adds] at own
    rw [planAll, same]
    have shallowLater (place : Place)
        (inside : added place ∨ job.makes config environment disk place) :
        place.length ≤ names.length + 3 :=
      inside.elim (shallow place) (Job.length_le_of_makes straight plainJob)
    obtain ⟨outcomes, others⟩ := inductionHypothesis (adds.followed_by own) shallowLater plainRest
    constructor
    · rw [List.map_cons, ← outcomes, ← outcome]
      rfl
    · simp only [List.exists_mem_cons_iff]
      exact own.followed_by others

end

/-- Planning does not depend on the order. In any two orders every job has the outcome that it has
alone, and the same tree is left behind, whether jobs fail or not. A tree has no symbolic links: with
them the folder of one job could lie on the way to the marker of another. -/
theorem planAll_perm (config : Config) (environment : Environment)
    (straight : ['.', '.'] ∉ (config.base environment).segments) (disk : State)
    {first second : List Job} (permuted : first.Perm second)
    (plain : ∀ job ∈ first, job.Plain config environment disk) :
    (planAll config environment first disk).1 =
        first.map (fun job => (job.plan config environment disk).outcome) ∧
      (planAll config environment second disk).1 =
        second.map (fun job => (job.plan config environment disk).outcome) ∧
      ∀ place, (planAll config environment first disk).2.tree.find place =
        (planAll config environment second disk).2.tree.find place := by
  obtain ⟨names, way⟩ := Path.way_of_straight straight
  have alone (jobs : List Job) (plain : ∀ job ∈ jobs, job.Plain config environment disk) :=
    planAll_of_adds way (.nowhere disk.tree) (fun _ impossible => impossible.elim) plain
  have plainSecond : ∀ job ∈ second, job.Plain config environment disk :=
    fun job member => plain job (permuted.mem_iff.mpr member)
  obtain ⟨outcomesFirst, addsFirst⟩ := alone first plain
  obtain ⟨outcomesSecond, addsSecond⟩ := alone second plainSecond
  refine ⟨outcomesFirst, outcomesSecond, addsFirst.find_eq addsSecond ?_⟩
  intro place
  simp only [permuted.mem_iff]

/-- A disk with a marker, and with a file where a component has its folder. -/
def occupied : State :=
  ((record ⟨"agent/installed"⟩ "PVDriver" "9000.0.0\n" (State.plain .empty)).2.put
    ⟨"agent/components/Blocked"⟩ (.text "")).2

/-- A version that is too long for a name. -/
def overlong : String := String.ofList (List.replicate 256 '1')

theorem normal_overlong : NormalSegment overlong := by
  have characters : overlong.toList = List.replicate 256 '1' := String.toList_ofList
  have differs (text : String) (short : text.length < 256) : overlong ≠ text := by
    rintro rfl
    rw [← String.length_toList, characters, List.length_replicate] at short
    exact Nat.lt_irrefl 256 short
  refine ⟨differs "" (by decide), ?_, differs "." (by decide), differs ".." (by decide)⟩
  rw [characters]
  intro inside
  cases List.eq_of_mem_replicate inside

/-- A removal of what is installed, an install that is repeated, one that a file is in the way of, and
one that stops half way because its version is too long. -/
def jobs : List Job :=
  let offline : CandidateSource := fun name _ => .error (.notFound name)
  [ ⟨none, offline, Request.new "PVDriver" .uninstall, .unknown⟩,
    ⟨none, fun _ _ => .ok ["1.0.0", "1.2.0"], Request.new "NVMe" .install, .unknown⟩,
    ⟨none, offline, ⟨"Blocked", some "1.0.0", .install, none⟩, .unknown⟩,
    ⟨none, offline, ⟨"Long", some overlong, .install, none⟩, .unknown⟩,
    ⟨none, fun _ _ => .ok ["1.0.0", "1.2.0"], Request.new "NVMe" .install, .unknown⟩ ]

theorem planAll_perm_of_reversal :
    (∀ job ∈ jobs, job.Plain agent ⟨⟨""⟩, none⟩ occupied) ∧
      (planAll agent ⟨⟨""⟩, none⟩ jobs.reverse occupied).1 =
        (planAll agent ⟨⟨""⟩, none⟩ jobs occupied).1.reverse ∧
      ∀ place, (planAll agent ⟨⟨""⟩, none⟩ jobs occupied).2.tree.find place =
        (planAll agent ⟨⟨""⟩, none⟩ jobs.reverse occupied).2.tree.find place := by
  have unmarked : ∀ name ∈ ["NVMe", "Blocked", "Long"],
      current (agent.installedRoot ⟨⟨""⟩, none⟩) name occupied = "" := by decide +kernel
  have marked : current (agent.installedRoot ⟨⟨""⟩, none⟩) "PVDriver" occupied = "9000.0.0" := by
    decide +kernel
  have normal (text : String) (known : text ∈
      ["PVDriver", "NVMe", "Blocked", "Long", "9000.0.0", "1.0.0"]) : NormalSegment text := by
    simp only [List.mem_cons, List.not_mem_nil, or_false] at known
    rcases known with rfl | rfl | rfl | rfl | rfl | rfl <;> constructor <;> decide
  have plain : ∀ job ∈ jobs, job.Plain agent ⟨⟨""⟩, none⟩ occupied := by
    intro job member
    simp only [jobs, List.mem_cons, List.not_mem_nil, or_false] at member
    rcases member with rfl | rfl | rfl | rfl | rfl
    · refine ⟨normal _ (by simp [Request.new]), ?_, Or.inr (marked ▸ normal "9000.0.0" (by simp))⟩
      rintro _ ⟨⟩
    · refine ⟨normal "NVMe" (by simp), ?_, Or.inl (unmarked "NVMe" (by simp))⟩
      rintro _ ⟨⟩
    · refine ⟨normal "Blocked" (by simp), ?_, Or.inl (unmarked "Blocked" (by simp))⟩
      rintro _ ⟨⟩
      exact normal "1.0.0" (by simp)
    · refine ⟨normal "Long" (by simp), ?_, Or.inl (unmarked "Long" (by simp))⟩
      intro version fixed
      exact Option.some.inj fixed ▸ normal_overlong
    · refine ⟨normal "NVMe" (by simp), ?_, Or.inl (unmarked "NVMe" (by simp))⟩
      rintro _ ⟨⟩
  obtain ⟨same, reversed, tree⟩ := planAll_perm agent ⟨⟨""⟩, none⟩ (by decide) occupied
    jobs.reverse_perm.symm plain
  refine ⟨plain, ?_, tree⟩
  rw [same, reversed, List.map_reverse]

end ComponentInstall.Planning
