import ComponentInstall.Disk.State

/-!
# Making calls to a disk

What a program does with a disk is written once, over the calls that it makes, and can be run wherever
these calls can be made. Here they are made on the state of a disk, which is handed on from call to
call.
-/

namespace ComponentInstall.Disk

/-- A monad in which calls to a disk can be made. -/
class MonadDisk (m : Type → Type) where
  createFolders : Path → m (Except IoError Unit)
  isFolder : Path → m Bool
  listNames : Path → m (Except IoError (List String))
  readText : Path → m (Except IoError String)
  writeText : Path → String → m (Except IoError Unit)
  append : Path → String → m (Except IoError Unit)
  removeFile : Path → m (Except IoError Unit)

/-- Calls that are made on the state of a disk. -/
abbrev OnDisk := StateM State

instance : MonadDisk OnDisk where
  createFolders path := modifyGet (·.createFolders path)
  isFolder path := return (← get).isFolder path
  listNames path := return (← get).listNames path
  readText path := return (← get).readText path
  writeText path text := modifyGet (·.writeText path text)
  append path text := modifyGet (·.append path text)
  removeFile path := modifyGet (·.removeFile path)

namespace OnDisk

/-- What comes behind a step is made on the disk behind it. -/
theorem run_bind {α β : Type} (step : OnDisk α) (next : α → OnDisk β) (disk : State) :
    (step >>= next).run disk = (next (step.run disk).1).run (step.run disk).2 := rfl

variable (path : Path) (text : String) (disk : State)

@[simp] theorem run_createFolders :
    (MonadDisk.createFolders path : OnDisk _).run disk = disk.createFolders path := rfl

@[simp] theorem run_isFolder :
    (MonadDisk.isFolder path : OnDisk _).run disk = (disk.isFolder path, disk) := rfl

@[simp] theorem run_listNames :
    (MonadDisk.listNames path : OnDisk _).run disk = (disk.listNames path, disk) := rfl

@[simp] theorem run_readText :
    (MonadDisk.readText path : OnDisk _).run disk = (disk.readText path, disk) := rfl

@[simp] theorem run_writeText :
    (MonadDisk.writeText path text : OnDisk _).run disk = disk.writeText path text := rfl

@[simp] theorem run_append :
    (MonadDisk.append path text : OnDisk _).run disk = disk.append path text := rfl

@[simp] theorem run_removeFile :
    (MonadDisk.removeFile path : OnDisk _).run disk = disk.removeFile path := rfl

end OnDisk

end ComponentInstall.Disk
