import ComponentInstall.Config
import ComponentInstall.Proofs.Disk.Repeat
import ComponentInstall.Staging.Folder

/-!
# Staging folders

Behind a base without two dots the markers and the folders of versions have places of their own: two
names below the base for a marker, three for a version folder.

The names that a folder is listed with are those of the entries in it. So a version that has a staging
folder has a package exactly if the folder can be listed and some entry lies directly in it.
-/

namespace ComponentInstall.Disk.Tree

/-- The names in a folder are those of its entries. -/
theorem mem_names_iff {tree : Tree} {place : Place} {name : String} :
    name ∈ tree.names place ↔ tree.find (name :: place) ≠ none := by
  have held : tree.find (name :: place) = tree.entries.lookup (name :: place) := rfl
  rw [held, Option.ne_none_iff_isSome, List.lookup_isSome_iff, names, List.mem_filterMap]
  constructor
  · rintro ⟨⟨inner, entry⟩, member, found⟩
    cases inner with
    | nil => cases found
    | cons first outer =>
      obtain ⟨rfl, rfl⟩ : outer = place ∧ first = name := by simpa using found
      exact ⟨_, member, beq_self_eq_true _⟩
  · rintro ⟨⟨inner, entry⟩, member, same⟩
    obtain rfl : name :: place = inner := eq_of_beq same
    exact ⟨_, member, by simp⟩

end ComponentInstall.Disk.Tree

namespace ComponentInstall.Disk

/-- A path leads to one folder. -/
theorem Tree.LeadsTo.unique {tree : Tree} {path : Path} {place other : Place}
    (leads : tree.LeadsTo path place) (again : tree.LeadsTo path other) : place = other := by
  obtain ⟨route, followed, resolved⟩ := leads
  obtain ⟨_, followedToo, resolvedToo⟩ := again
  cases followed.symm.trans followedToo
  cases resolved.symm.trans resolvedToo
  rfl

namespace State

variable {disk : State} {path : Path}

theorem isFolder_eq_true_iff : disk.isFolder path = true ↔
    disk.faults .isFolder path = none ∧ ∃ place, disk.tree.LeadsTo path place := by
  rw [isFolder]
  cases disk.faults .isFolder path with
  | some refusal => simp
  | none =>
    cases followed : path.route with
    | error refusal => simp [Tree.LeadsTo, followed]
    | ok route =>
      cases resolved : disk.tree.resolve route with
      | error refusal => simp [Tree.LeadsTo, Tree.isFolder, followed, resolved]
      | ok found =>
        obtain ⟨place, folder | content⟩ := found <;>
          simp [Tree.LeadsTo, Tree.isFolder, followed, resolved]

/-- A folder that is listed is listed with the names in it. -/
theorem listNames_eq_ok_iff {names : List String} : disk.listNames path = .ok names ↔
    disk.faults .listNames path = none ∧
      ∃ place, disk.tree.LeadsTo path place ∧ disk.tree.names place = names := by
  rw [listNames]
  cases disk.faults .listNames path with
  | some refusal => simp
  | none =>
    cases followed : path.route with
    | error refusal => simp [Tree.LeadsTo, followed]
    | ok route =>
      cases resolved : disk.tree.resolve route with
      | error refusal => simp [Tree.LeadsTo, Tree.list, followed, resolved]
      | ok found =>
        obtain ⟨place, folder | content⟩ := found <;>
          simp [Tree.LeadsTo, Tree.list, followed, resolved]

end State

end ComponentInstall.Disk

namespace ComponentInstall.Staging

open ComponentInstall.Disk

theorem way_installedRoot (config : Config) (environment : Environment) :
    (config.installedRoot environment).way
      = .into "installed" :: (config.base environment).way :=
  Path.way_join_normal _ (by constructor <;> decide)

section

variable {config : Config} {environment : Environment} {names : Place} {name version : String}
  (straight : (config.base environment).way = names.map .into)

include straight

theorem installedRoot_straight :
    (config.installedRoot environment).way = ("installed" :: names).map .into := by
  rw [way_installedRoot, straight]
  rfl

/-- The folder of a component, around those of its versions. -/
theorem component_straight (normal : NormalSegment name) :
    ((config.stagingRoot environment).join ⟨name⟩).way
      = (name :: "components" :: names).map .into := by
  rw [Path.way_join_normal _ normal, Config.stagingRoot,
    Path.way_join_normal _ (by constructor <;> decide), straight]
  rfl

theorem folder_straight (normalName : NormalSegment name) (normalVersion : NormalSegment version) :
    (folder (config.stagingRoot environment) name version).way =
      (version :: name :: "components" :: names).map .into := by
  rw [folder, Path.way_join_normal _ normalVersion, component_straight straight normalName]
  rfl

end

/-- Nothing is made to fail when a folder is looked at. -/
def Viewable (disk : State) (path : Path) : Prop :=
  disk.faults .isFolder path = none ∧ disk.faults .listNames path = none

/-- A version has a package if the path of its staging folder leads to a folder that can be looked at,
and something lies in it. -/
theorem hasPackage_eq_true_iff {root : Path} {name version : String} (disk : State) :
    hasPackage root name version disk = true ↔
      Viewable disk (folder root name version) ∧
        ∃ place, disk.tree.LeadsTo (folder root name version) place ∧
          ∃ child, disk.tree.find (child :: place) ≠ none := by
  rw [hasPackage_iff_listed, State.isFolder_eq_true_iff]
  simp only [State.listNames_eq_ok_iff, ← Tree.mem_names_iff]
  constructor
  · rintro ⟨⟨viewable, -⟩, _, ⟨listable, place, leads, rfl⟩, inhabited⟩
    exact ⟨⟨viewable, listable⟩, place, leads, List.exists_mem_of_ne_nil _ inhabited⟩
  · rintro ⟨⟨viewable, listable⟩, place, leads, child, inside⟩
    exact ⟨⟨viewable, place, leads⟩, _, ⟨listable, place, leads, rfl⟩, List.ne_nil_of_mem inside⟩

/-- A version whose staging folder is there has a package if something lies in the folder. -/
theorem hasPackage_iff {root : Path} {name version : String} (disk : State) {route : Route}
    {place : Place} (followed : (folder root name version).route = .ok route)
    (reached : disk.tree.reach (folder root name version).way = .ok place) :
    hasPackage root name version disk = true ↔
      Viewable disk (folder root name version) ∧
        ∃ child, disk.tree.find (child :: place) ≠ none := by
  rw [hasPackage_eq_true_iff]
  apply and_congr_right
  intro _
  simp only [Tree.leadsTo_iff followed, reached, Except.ok.injEq, exists_eq_left']

/-- Whether a version has a package does not depend on what else is on the disk. -/
theorem hasPackage_congr {root : Path} {name version : String} {disk : State} {left right : Tree}
    {route : Route} {place : Place} (followed : (folder root name version).route = .ok route)
    (reachedLeft : left.reach (folder root name version).way = .ok place)
    (reachedRight : right.reach (folder root name version).way = .ok place)
    (same : ∀ child, left.find (child :: place) = none ↔ right.find (child :: place) = none) :
    hasPackage root name version (disk.withTree left)
      = hasPackage root name version (disk.withTree right) := by
  apply Bool.eq_iff_iff.mpr
  rw [hasPackage_iff (disk.withTree left) followed reachedLeft,
    hasPackage_iff (disk.withTree right) followed reachedRight]
  apply and_congr_right
  intro _
  apply exists_congr
  intro child
  exact not_congr (same child)

end ComponentInstall.Staging
