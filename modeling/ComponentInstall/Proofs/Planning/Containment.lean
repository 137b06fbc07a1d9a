import ComponentInstall.Proofs.Planning.Footprint
import ComponentInstall.Proofs.Staging.Folders
import ComponentInstall.Proofs.Staging.Stray

/-!
# When planning keeps to the staging root

All that planning makes is folders along the staging path of its version. `Contained` says that they
lie where staging folders belong: what is new is the staging root, lies around it or in it, and none
of it lies where the markers are.

The first is a matter of the name and the version alone, and holds for every configuration and on
every disk if they stay with the staging root. Nothing but a blank name is refused, so a request can
also have a name or a version that does not stay, and for each of these there is a configuration for
which something is made elsewhere.

The second is then a matter of the base. A base with two dots may lead through the folder of its own
markers, which is made as a folder around the staging root. No other base does.
-/

namespace ComponentInstall.Planning

open Disk Feed Staging

/-- What a name and a version put behind the staging root. -/
def part (name version : String) : Path := (Disk.Path.mk name).join ⟨version⟩

/-- What is new on a disk lies where staging folders belong. -/
structure Contained (config : Config) (environment : Environment) (before after : Tree) : Prop where
  /-- What is new is the staging root or lies around it or in it. -/
  within : ∀ place, before.find place = none → after.find place ≠ none →
    Within after (config.stagingRoot environment) place
  /-- Nothing new lies where the markers are. -/
  apart : ∀ place installed, before.find place = none → after.find place ≠ none →
    after.LeadsTo (config.installedRoot environment) installed → ¬ installed <:+ place

/-- The way of a base does not come through the folder of its markers. If a name on the way is too
long there is no such folder. -/
def Apart (base : Path) : Prop :=
  Short base.way →
    ∀ outer, outer <:+ base.way → ¬ "installed" :: destination base.way <:+ destination outer

/-- A base without two dots leads to nothing but folders around its markers. -/
theorem apart_of_straight {base : Path} (straight : ['.', '.'] ∉ base.segments) : Apart base := by
  obtain ⟨names, way⟩ := Path.way_of_straight straight
  intro _ outer first inside
  rw [way] at first inside
  obtain ⟨around, within, rfl⟩ := List.suffix_map_iff.mp first
  rw [destination_map_into, destination_map_into] at inside
  exact absurd (inside.trans within).length_le (by simp)

theorem ne_empty_of_named {request : Request} (named : Named request) : request.name ≠ "" := by
  obtain ⟨c, inside, -⟩ := named
  intro empty
  simp [empty] at inside

theorem part_ne_empty {name : String} (version : String) (named : name ≠ "") :
    (part name version).text ≠ "" := by
  by_cases absolute : (Disk.Path.mk version).Absolute
  · rw [part, Path.join_of_absolute _ absolute]
    intro empty
    obtain rfl : version = "" := empty
    cases absolute
  · intro empty
    have text := Path.toList_join (Disk.Path.mk name) absolute named
    rw [← part, empty] at text
    simp [named] at text

/-- The staging folder is the part behind the staging root. -/
theorem folder_eq_join (root : Path) {name : String} (version : String) (named : name ≠ "") :
    folder root name version = root.join (part name version) :=
  Path.join_assoc root ⟨version⟩ named

/-- A version is only settled for a name that shows something. -/
theorem named_of_settled {planner : Planner} {source : CandidateSource} {request : Request}
    {target : Instance} {installed version : String}
    (settled : (decision planner source request target installed).1 = .ok version) :
    Named request := by
  rcases named_or_nameless request with named | blank
  · exact named
  · rw [decision_of_decides (.nameless blank)] at settled
    cases settled

theorem contained_refl (config : Config) (environment : Environment) (tree : Tree) :
    Contained config environment tree tree where
  within _ missing found := absurd missing found
  apart _ _ missing found := absurd missing found

/-- What belongs to the staging root does not lie where the markers are. -/
theorem apart_of_within {config : Config} {environment : Environment} {tree : Tree}
    {place installed : Place} (apart : Apart (config.base environment))
    (within : Within tree (config.stagingRoot environment) place)
    (leads : tree.LeadsTo (config.installedRoot environment) installed) :
    ¬ installed <:+ place := by
  obtain ⟨route, followed, resolved⟩ := leads
  have reached := (Tree.leadsTo_iff followed).mp ⟨route, followed, resolved⟩
  have short := Tree.short_of_reach reached
  obtain rfl := Tree.eq_destination_of_reach reached
  rw [way_installedRoot] at short ⊢
  have rootWay := way_rootBelow (config.base environment)
  intro inside
  rcases within with ⟨front, begins, frontRoute, frontFollowed, frontResolved⟩ |
      ⟨rootPlace, ⟨rootRoute, rootFollowed, rootResolved⟩, within⟩
  · have frontReached := (Tree.leadsTo_iff frontFollowed).mp ⟨_, frontFollowed, frontResolved⟩
    rw [Tree.eq_destination_of_reach frontReached] at inside
    have first : front.way <:+ .into rootName :: (config.base environment).way :=
      rootWay ▸ Path.way_suffix_of_begins begins
    rcases List.suffix_cons_iff.mp first with whole | around
    · rw [whole] at inside
      have same := inside.eq_of_length rfl
      simp [destination, rootName] at same
    · exact apart (short.of_suffix (List.suffix_cons _ _)) _ around inside
  · have rootReached := (Tree.leadsTo_iff rootFollowed).mp ⟨_, rootFollowed, rootResolved⟩
    obtain rfl := Tree.eq_destination_of_reach rootReached
    have rootIs : (config.stagingRoot environment).way = .into rootName :: _ := rootWay
    rw [rootIs] at within
    exact absurd (eq_of_inside inside within) (by decide)

/-- Making the folder of a part that stays is contained. -/
theorem contained_createFolders {config : Config} {environment : Environment} {name version : String}
    (disk : State) (named : name ≠ "") (stays : Stays (part name version))
    (apart : Apart (config.base environment)) :
    Contained config environment disk.tree
      (disk.createFolders (folder (config.stagingRoot environment) name version)).2.tree := by
  rw [folder_eq_join _ version named]
  cases followed : ((config.stagingRoot environment).join (part name version)).route with
  | error refusal =>
    rw [disk.createFolders_of_unfollowed followed]
    exact contained_refl config environment disk.tree
  | ok route =>
    have grown := (disk.createFolders_grows
      ((config.stagingRoot environment).join (part name version))).2
    constructor
    · intro place missing found
      exact within_of_stays stays (part_ne_empty version named) followed grown missing found
    · intro place installed missing found leads
      have within := within_of_stays stays (part_ne_empty version named) followed grown missing found
      exact apart_of_within apart within leads

/-- If the path of the staging root can be followed, so can that of the markers, which is shorter. -/
theorem route_installedRoot {config : Config} {environment : Environment} {route : Route}
    (followed : (config.stagingRoot environment).route = .ok route) :
    ∃ route, (config.installedRoot environment).route = .ok route := by
  obtain ⟨⟨clean, -, small⟩, -⟩ := Path.route_eq_ok_iff.mp followed
  have shape : ∃ front : String, (config.stagingRoot environment).text = front ++ "components" ∧
      (config.installedRoot environment).text = front ++ "installed" := by
    by_cases empty : (config.base environment).text = ""
    · exact ⟨"", by simp [Config.stagingRoot, Path.join, empty],
        by simp [Config.installedRoot, Path.join, empty]⟩
    by_cases closed : (config.base environment).text.toList.getLast? = some '/'
    · exact ⟨(config.base environment).text,
        by simp [Config.stagingRoot, Path.join, empty, closed],
        by simp [Config.installedRoot, Path.join, empty, closed]⟩
    · exact ⟨(config.base environment).text ++ "/",
        by simp [Config.stagingRoot, Path.join, empty, closed],
        by simp [Config.installedRoot, Path.join, empty, closed]⟩
  obtain ⟨front, stagingText, installedText⟩ := shape
  rw [stagingText] at clean small
  refine ⟨_, Path.route_eq_ok_iff.mpr ⟨⟨?_, ?_, ?_⟩, rfl⟩⟩
  · rw [installedText]
    simp at clean ⊢
    exact clean
  · simp [installedText]
  · rw [installedText]
    have shorter : "installed".utf8ByteSize ≤ "components".utf8ByteSize := by decide
    simp only [String.utf8ByteSize_append] at small ⊢
    omega

/-- Below a base whose way comes through the folder of its markers, that folder is made with the
staging root. -/
theorem exists_among_markers {config : Config} {environment : Environment} {inner : Path}
    {route : Route} (relative : ¬ inner.Absolute) (named : inner.text ≠ "")
    (followed : ((config.stagingRoot environment).join inner).route = .ok route)
    (through : ¬ Apart (config.base environment)) :
    ∃ place installed, Tree.empty.find place = none ∧
      ((State.plain .empty).createFolders ((config.stagingRoot environment).join inner)).2.tree.find
        place = some .folder ∧
      ((State.plain .empty).createFolders
        ((config.stagingRoot environment).join inner)).2.tree.LeadsTo
          (config.installedRoot environment) installed ∧
      installed <:+ place := by
  have rootWay : (config.stagingRoot environment).way
      = .into rootName :: (config.base environment).way := way_rootBelow _
  have passes : (config.base environment).way
      <:+ ((config.stagingRoot environment).join inner).making := by
    rcases Path.making_join (config.stagingRoot environment) relative named with
      making | ⟨-, making⟩
    · rw [making, rootWay]
      exact (List.suffix_cons _ _).trans (List.suffix_append _ _)
    · rw [making, rootWay]
      exact List.suffix_refl _
  simp only [Apart, not_forall, not_not] at through
  obtain ⟨short, outer, first, inside⟩ := through
  have reaches (moves : List Move) (first : moves <:+ (config.base environment).way) :=
    reach_createFolders_empty followed (first.trans passes) (short.of_suffix first)
  obtain ⟨upTo, within, same⟩ := exists_destination_of_suffix inside
  have markers := Tree.find_of_reach (reaches upTo (within.trans first))
  rw [same] at markers
  obtain ⟨rootRoute, rootFollowed⟩ := route_of_join_root relative followed
  obtain ⟨installedRoute, installedFollowed⟩ := route_installedRoot rootFollowed
  refine ⟨destination outer, _, ?_, Tree.find_of_reach (reaches outer first),
    (Tree.leadsTo_iff installedFollowed).mpr ?_, inside⟩
  · obtain ⟨rest, whole⟩ := inside
    rw [← whole]
    cases rest <;> rfl
  · rw [way_installedRoot]
    exact Tree.reach_cons_eq_ok_iff.mpr ⟨_, reaches _ (List.suffix_refl _),
      Tree.step_into_eq_ok_iff.mpr ⟨by decide, markers, rfl⟩⟩

theorem decisionOn_of_given {request : Request} {version : String} (named : Named request)
    (fixed : request.version = some version) (planner : Planner) (source : CandidateSource)
    (target : Instance) (disk : State) :
    (decisionOn planner source request target disk).1 = .ok version := by
  rw [decisionOn, decision_of_decides (.given named fixed)]

/-- Planning is contained if the version that is settled stays with the staging root, wherever it
comes from, and the base stays apart from its markers. Both are needed as far as a disk can follow
the path at all: a name and a version that do not stay are not contained for some configuration, and
a base that does not stay apart is not for any request that goes on from its staging root. -/
theorem plan_contained (config : Config) (environment : Environment) (wanted : Option String)
    (source : CandidateSource) (request : Request) (target : Instance) (disk : State) :
    ((∀ version, (decisionOn (Planner.ofConfig config environment wanted) source request target
          disk).1 = .ok version → Stays (part request.name version)) →
      Apart (config.base environment) →
      Contained config environment disk.tree
        ((Planner.ofConfig config environment wanted).plan source request target disk).disk.tree) ∧
    ∀ version, Named request → request.version = some version →
      (Fits (part request.name version) → ¬ Stays (part request.name version) →
        ∃ config environment, ¬ Contained config environment .empty
          ((Planner.ofConfig config environment wanted).plan source request target
            (State.plain .empty)).disk.tree) ∧
      (¬ (part request.name version).Absolute →
        (∃ route, (folder (config.stagingRoot environment) request.name version).route = .ok route) →
        ¬ Apart (config.base environment) →
        ¬ Contained config environment .empty ((Planner.ofConfig config environment wanted).plan
          source request target (State.plain .empty)).disk.tree) := by
  constructor
  · intro stays apart
    cases decided : (decisionOn (Planner.ofConfig config environment wanted) source request target
        disk).1 with
    | error error =>
      rw [plan_of_refused _ source request target decided]
      exact contained_refl config environment disk.tree
    | ok version =>
      rw [plan_of_settled _ source request target decided, disk_stage]
      exact contained_createFolders disk (ne_empty_of_named (named_of_settled decided))
        (stays version decided) apart
  intro version named fixed
  have nonempty := ne_empty_of_named named
  have settled (config : Config) (environment : Environment) :=
    decisionOn_of_given named fixed (Planner.ofConfig config environment wanted) source target
      (State.plain .empty)
  constructor
  · intro fits strays
    obtain ⟨base, -, place, missing, made, outside⟩ :=
      makesOutside_of_not_stays (part_ne_empty version nonempty) fits strays
    refine ⟨{ Config.default with stagingDir := some base }, ⟨⟨""⟩, none⟩, ?_⟩
    intro contained
    rw [plan_of_settled _ source request target (settled _ _), disk_stage] at contained
    refine outside _ (contained.within place missing ?_)
    rw [folder_eq_join _ version nonempty]
    exact fun nothing => by cases made.symm.trans nothing
  · intro relative followable through contained
    obtain ⟨route, followed⟩ := followable
    rw [folder_eq_join _ version nonempty] at followed
    obtain ⟨place, installed, missing, made, leads, inside⟩ :=
      exists_among_markers relative (part_ne_empty version nonempty) followed through
    rw [plan_of_settled _ source request target (settled _ _), disk_stage] at contained
    refine contained.apart place installed missing ?_ ?_ inside
    all_goals
      simp only [Planner.ofConfig]
      rw [folder_eq_join _ version nonempty]
    · exact fun nothing => by cases made.symm.trans nothing
    · exact leads

/-- A configuration with a base of one name. -/
def agent : Config := { Config.default with stagingDir := some ⟨"agent"⟩ }

theorem plan_contained_of_plain_version :
    Contained agent ⟨⟨""⟩, none⟩ .empty ((Planner.ofConfig agent ⟨⟨""⟩, none⟩ none).plan
      (fun _ _ => .ok []) ((Request.new "PVDriver" .install).withVersion "9000.0.0") .unknown
      (State.plain .empty)).disk.tree := by
  refine (plan_contained agent ⟨⟨""⟩, none⟩ none (fun _ _ => .ok [])
    ((Request.new "PVDriver" .install).withVersion "9000.0.0") .unknown (State.plain .empty)).1 ?_
    (apart_of_straight (by decide))
  intro version settled
  obtain rfl : "9000.0.0" = version := Except.ok.inj settled
  decide

/-- A version that climbs out of the staging root is staged where the markers are. -/
theorem plan_not_contained_of_climbing_version :
    ¬ Contained agent ⟨⟨""⟩, none⟩ .empty ((Planner.ofConfig agent ⟨⟨""⟩, none⟩ none).plan
      (fun _ _ => .ok []) ((Request.new "PVDriver" .install).withVersion "../../installed/PVDriver")
      .unknown (State.plain .empty)).disk.tree := by
  intro contained
  refine contained.apart ["PVDriver", "installed", "agent"] ["installed", "agent"] rfl ?_ ?_ ?_
  · exact fun nothing => by cases nothing
  · exact ⟨⟨[.into "agent"], .entry "installed" false⟩, rfl, rfl⟩
  · exact ⟨["PVDriver"], rfl⟩

end ComponentInstall.Planning
