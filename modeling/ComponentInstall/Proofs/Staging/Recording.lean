import ComponentInstall.Proofs.Disk.Reading
import ComponentInstall.Proofs.Disk.Repeat
import ComponentInstall.Proofs.Text.Trimming
import ComponentInstall.Staging.Marker

/-!
# What the marker of a component says

A record that succeeds makes its text, without the blanks around it, the installed version. This holds
for every root and every name of a component, wherever their path may lead, because marker and record
go the same way. No folder is lost by it.

Making folders does not change what is installed, if the path of the marker has no two dots. Neither
does it change the marker then, nor can it open the way to one.
-/

namespace ComponentInstall.Staging

open ComponentInstall.Disk

variable {root : Path} {name text : String} {disk after : State}

/-- Recording keeps folders, whether it succeeds or not. -/
theorem continues_record (root : Path) (name text : String) (disk : State) :
    disk.Continues (record root name text disk).2 := by
  have made := disk.continues_createFolders root
  rw [record_eq]
  generalize disk.createFolders root = result at made
  obtain ⟨answer, around⟩ := result
  cases answer with
  | error cause => exact made
  | ok done =>
    have written := around.continues_writeText (marker root name) text
    simp only
    generalize around.writeText (marker root name) text = result at written
    obtain ⟨answer, last⟩ := result
    cases answer <;> exact made.trans written

/-- After a record the installed version is what was recorded, without the blanks around it. -/
theorem current_of_record (readable : disk.faults .readText (marker root name) = none)
    (recorded : record root name text disk = (.ok (), after)) :
    current root name after = Text.trim text := by
  have made := disk.continues_createFolders root
  rw [record_eq] at recorded
  generalize disk.createFolders root = result at made recorded
  obtain ⟨answer, around⟩ := result
  cases answer with
  | error cause => cases recorded
  | ok done =>
    simp only at made recorded
    cases written : around.writeText (marker root name) text with
    | mk answer last =>
      rw [written] at recorded
      cases answer with
      | error cause => cases recorded
      | ok done =>
        obtain rfl : last = after := congrArg Prod.snd recorded
        have readableAround : around.faults .readText (marker root name) = none := by
          rw [made.faults]
          exact readable
        have read := State.readText_of_writeText readableAround written
        rw [current_eq, read]

/-- The installed version has no blanks around it. -/
theorem trim_current (root : Path) (name : String) (disk : State) :
    Text.trim (current root name disk) = current root name disk := by
  rw [current_eq]
  cases disk.readText (marker root name) with
  | ok text => exact Text.trim_trim text
  | error refusal => exact Text.trim_empty

/-- More folders do not change what is installed. -/
theorem current_of_gains {tree : Tree} {names : Place}
    (gains : Tree.GainsFolders disk.tree tree) (straight : (marker root name).way = names.map .into) :
    current root name (disk.withTree tree) = current root name disk := by
  have same (text : String) : (disk.withTree tree).readText (marker root name) = .ok text ↔
      disk.readText (marker root name) = .ok text := State.readText_of_gains gains straight
  rw [current_eq, current_eq]
  cases before : disk.readText (marker root name) with
  | ok text => rw [(same text).mpr before]
  | error refusal =>
    cases after : (disk.withTree tree).readText (marker root name) with
    | ok text => cases before.symm.trans ((same text).mp after)
    | error other => rfl

end ComponentInstall.Staging
