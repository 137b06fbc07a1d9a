import ComponentInstall.Disk.Calls
import ComponentInstall.Staging.Error
import ComponentInstall.Text.Blank

/-!
# Installed versions

Which version of a component is installed is kept in a marker, a file below the installed root that
has the name of the component and holds the version. Reading drops blanks around the version, so a
marker that ends in a line break is as good as one that does not. A marker that is missing or cannot
be read says that nothing is installed, which the empty text stands for.
-/

namespace ComponentInstall.Staging

open ComponentInstall.Disk

/-- The marker of a component. -/
def marker (root : Path) (name : String) : Path := root.join ⟨name⟩

section

variable {m : Type → Type} [Monad m] [MonadDisk m]

/-- Records a version as installed, after making the folder for markers. -/
def recordM (root : Path) (name version : String) : m (Except StagingError Unit) := do
  match ← MonadDisk.createFolders root with
  | .error cause => return .error (.createFolder root cause)
  | .ok () =>
    match ← MonadDisk.writeText (marker root name) version with
    | .error cause => return .error (.writeMarker (marker root name) cause)
    | .ok () => return .ok ()

/-- Forgets the installed version. There may be none to forget. -/
def clearM (root : Path) (name : String) : m (Except StagingError Unit) := do
  match ← MonadDisk.removeFile (marker root name) with
  | .ok () => return .ok ()
  | .error cause =>
    if cause.kind = .notFound then return .ok ()
    else return .error (.removeMarker (marker root name) cause)

/-- Reads the installed version, or the empty text. -/
def currentM (root : Path) (name : String) : m String := do
  match ← MonadDisk.readText (marker root name) with
  | .ok text => return Text.trim text
  | .error _ => return ""

end

/-- Recording a version on a disk. -/
def record (root : Path) (name version : String) (disk : State) :
    Except StagingError Unit × State :=
  (recordM root name version : OnDisk _).run disk

theorem record_eq (root : Path) (name version : String) (disk : State) :
    record root name version disk =
      match disk.createFolders root with
      | (.error cause, disk) => (.error (.createFolder root cause), disk)
      | (.ok (), disk) =>
        match disk.writeText (marker root name) version with
        | (.error cause, disk) => (.error (.writeMarker (marker root name) cause), disk)
        | (.ok (), disk) => (.ok (), disk) := by
  simp only [record, recordM, OnDisk.run_bind, OnDisk.run_createFolders]
  generalize disk.createFolders root = made
  obtain ⟨cause | done, around⟩ := made
  · rfl
  · simp only [OnDisk.run_bind, OnDisk.run_writeText]
    generalize around.writeText (marker root name) version = written
    obtain ⟨cause | done, after⟩ := written <;> rfl

/-- Forgetting the installed version on a disk. -/
def clear (root : Path) (name : String) (disk : State) : Except StagingError Unit × State :=
  (clearM root name : OnDisk _).run disk

theorem clear_eq (root : Path) (name : String) (disk : State) :
    clear root name disk =
      match disk.removeFile (marker root name) with
      | (.ok (), disk) => (.ok (), disk)
      | (.error cause, disk) =>
        if cause.kind = .notFound then (.ok (), disk)
        else (.error (.removeMarker (marker root name) cause), disk) := by
  simp only [clear, clearM, OnDisk.run_bind, OnDisk.run_removeFile]
  generalize disk.removeFile (marker root name) = removed
  obtain ⟨cause | done, after⟩ := removed
  · by_cases missing : cause.kind = .notFound
    · simp only [missing, if_true]
      rfl
    · simp only [missing, if_false]
      rfl
  · rfl

/-- The version that is installed on a disk, or the empty text. -/
def current (root : Path) (name : String) (disk : State) : String :=
  ((currentM root name : OnDisk _).run disk).1

theorem current_eq (root : Path) (name : String) (disk : State) :
    current root name disk =
      match disk.readText (marker root name) with
      | .ok text => Text.trim text
      | .error _ => "" := by
  simp only [current, currentM, OnDisk.run_bind, OnDisk.run_readText]
  cases disk.readText (marker root name) <;> rfl

/-- Reading the installed version leaves the disk as it is. -/
theorem run_currentM (root : Path) (name : String) (disk : State) :
    (currentM root name : OnDisk _).run disk = (current root name disk, disk) := by
  simp only [current, currentM, OnDisk.run_bind, OnDisk.run_readText]
  cases disk.readText (marker root name) <;> rfl

end ComponentInstall.Staging
