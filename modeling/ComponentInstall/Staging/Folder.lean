import ComponentInstall.Disk.Calls
import ComponentInstall.Staging.Error

/-!
# Staging folders

Each version of a component is staged in a folder of its own below the staging root. Making the
folder again changes nothing, and a failure cleans nothing up. A package counts as staged when its
folder has an entry; a folder that cannot be listed counts as empty.
-/

namespace ComponentInstall.Staging

open ComponentInstall.Disk

/-- The staging folder of a version of a component. -/
def folder (root : Path) (name version : String) : Path := (root.join ⟨name⟩).join ⟨version⟩

section

variable {m : Type → Type} [Monad m] [MonadDisk m]

/-- Makes the staging folder of a version. -/
def createFolderM (root : Path) (name version : String) : m (Except StagingError Path) := do
  let path := folder root name version
  match ← MonadDisk.createFolders path with
  | .ok () => return .ok path
  | .error cause => return .error (.createFolder path cause)

/-- Finds out whether the staging folder of a version has an entry. -/
def hasPackageM (root : Path) (name version : String) : m Bool := do
  let path := folder root name version
  match ← MonadDisk.isFolder path with
  | false => return false
  | true =>
    match ← MonadDisk.listNames path with
    | .ok names => return !names.isEmpty
    | .error _ => return false

end

/-- Making the staging folder of a version on a disk. -/
def createFolder (root : Path) (name version : String) (disk : State) :
    Except StagingError Path × State :=
  (createFolderM root name version : OnDisk _).run disk

theorem createFolder_eq (root : Path) (name version : String) (disk : State) :
    createFolder root name version disk =
      (match (disk.createFolders (folder root name version)).1 with
        | .ok () => .ok (folder root name version)
        | .error cause => .error (.createFolder (folder root name version) cause),
        (disk.createFolders (folder root name version)).2) := by
  simp only [createFolder, createFolderM, OnDisk.run_bind, OnDisk.run_createFolders]
  generalize disk.createFolders (folder root name version) = made
  obtain ⟨answer | done, after⟩ := made <;> rfl

/-- Whether the staging folder of a version has an entry on a disk. -/
def hasPackage (root : Path) (name version : String) (disk : State) : Bool :=
  ((hasPackageM root name version : OnDisk _).run disk).1

/-- Looking for a package leaves the disk as it is. -/
theorem run_hasPackageM (root : Path) (name version : String) (disk : State) :
    (hasPackageM root name version : OnDisk _).run disk = (hasPackage root name version disk, disk) := by
  simp only [hasPackage, hasPackageM, OnDisk.run_bind, OnDisk.run_isFolder]
  cases disk.isFolder (folder root name version) with
  | false => rfl
  | true =>
    simp only [OnDisk.run_bind, OnDisk.run_listNames]
    cases disk.listNames (folder root name version) <;> rfl

/-- There is a package exactly if there is a folder and it is listed with a name. -/
theorem hasPackage_iff_listed (root : Path) (name version : String) (disk : State) :
    hasPackage root name version disk = true ↔
      disk.isFolder (folder root name version) = true ∧
        ∃ names, disk.listNames (folder root name version) = .ok names ∧ names ≠ [] := by
  simp only [hasPackage, hasPackageM, OnDisk.run_bind, OnDisk.run_isFolder]
  cases disk.isFolder (folder root name version) with
  | false => exact iff_of_false nofun nofun
  | true =>
    simp only [OnDisk.run_bind, OnDisk.run_listNames, true_and]
    cases disk.listNames (folder root name version) with
    | error refusal => exact iff_of_false nofun nofun
    | ok names =>
      cases names with
      | nil => exact iff_of_false nofun (by simp)
      | cons first rest => exact iff_of_true rfl ⟨_, rfl, List.cons_ne_nil first rest⟩

end ComponentInstall.Staging
