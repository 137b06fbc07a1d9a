import ComponentInstall.CommandLine.Run
import ComponentInstall.Proofs.Disk.Files
import ComponentInstall.Proofs.Planning.Footprint

/-!
# What the log leaves on the disk

The log lies in the data directory of the user, which is made for it. `LogFootprint` says what a tree may
show of it: what was there is there as it was, but for a log that something was written behind, and what
is new is either a folder to which a beginning of the data directory's path leads, or the log itself.
Opening the log leaves such a footprint, whether it succeeds or not, and so does every line that is
written to it, wherever the data directory may lie and whatever the lines say. Footprints compose, so a
whole run leaves no more.
-/

namespace ComponentInstall.CommandLine

open Disk Planning

theorem normal_logName : NormalSegment "component-resolver.log" := by constructor <;> decide

/-- The log is the file of its name in the data directory. -/
def IsLog (environment : Environment) (tree : Tree) (place : Place) : Prop :=
  ∃ around, place = "component-resolver.log" :: around ∧ tree.LeadsTo environment.dataDirectory around

/-- A tree after something was done for the log. -/
structure LogFootprint (environment : Environment) (before after : Tree) : Prop where
  /-- Nothing is removed or replaced. Files keep their content, and only the log gets more of it. -/
  kept : ∀ place entry, before.find place = some entry →
    after.find place = some entry ∨
      ∃ content more, entry = .file content ∧ after.find place = some (.file (content.append more)) ∧
        IsLog environment after place
  /-- What is new is a folder on the way to the log, or the log. -/
  made : ∀ place entry, before.find place = none → after.find place = some entry →
    (entry = .folder ∧
      ∃ front : Path, front.Begins environment.dataDirectory ∧ after.LeadsTo front place) ∨
    ((∃ content, entry = .file content) ∧ IsLog environment after place)

variable {environment : Environment}

theorem IsLog.keep {before after : Tree} {place : Place} (isLog : IsLog environment before place)
    (folders : ∀ place, before.find place = some .folder → after.find place = some .folder) :
    IsLog environment after place := by
  obtain ⟨around, here, leads⟩ := isLog
  exact ⟨around, here, leads.keep folders⟩

namespace LogFootprint

theorem refl (environment : Environment) (tree : Tree) : LogFootprint environment tree tree where
  kept _ _ found := Or.inl found
  made _ _ missing found := by simp [missing] at found

/-- Folders stay what they are. -/
theorem folders {before after : Tree} (footprint : LogFootprint environment before after)
    (place : Place) (folder : before.find place = some .folder) : after.find place = some .folder := by
  rcases footprint.kept place .folder folder with same | ⟨content, more, isFile, -, -⟩
  · exact same
  · cases isFile

/-- Files stay files. -/
theorem file {before after : Tree} (footprint : LogFootprint environment before after) {place : Place}
    {content : Content} (held : before.find place = some (.file content)) :
    ∃ later, after.find place = some (.file later) := by
  rcases footprint.kept place _ held with same | ⟨_, more, _, appended, -⟩
  · exact ⟨content, same⟩
  · exact ⟨_, appended⟩

theorem trans {before between after : Tree} (first : LogFootprint environment before between)
    (second : LogFootprint environment between after) : LogFootprint environment before after where
  kept place entry found := by
    rcases first.kept place entry found with same | ⟨content, more, rfl, appended, isLog⟩
    · exact second.kept place entry same
    · have isLog := isLog.keep second.folders
      rcases second.kept place _ appended with same | ⟨longer, further, isFile, appendedAgain, -⟩
      · exact Or.inr ⟨content, more, rfl, same, isLog⟩
      · obtain rfl : content.append more = longer := Entry.file.inj isFile
        rw [Content.append_append] at appendedAgain
        exact Or.inr ⟨content, more ++ further, rfl, appendedAgain, isLog⟩
  made place entry missing found := by
    cases held : between.find place with
    | none => exact second.made place entry held found
    | some earlier =>
      rcases first.made place earlier missing held with
        ⟨rfl, front, begins, leads⟩ | ⟨⟨content, rfl⟩, isLog⟩
      · obtain rfl : .folder = entry :=
          Option.some.inj ((second.folders place held).symm.trans found)
        exact Or.inl ⟨rfl, front, begins, leads.keep second.folders⟩
      · obtain ⟨later, isFile⟩ := second.file held
        obtain rfl : .file later = entry := Option.some.inj (isFile.symm.trans found)
        exact Or.inr ⟨⟨later, rfl⟩, isLog.keep second.folders⟩

theorem of_folders {before after : Tree}
    (footprint : Footprint environment.dataDirectory before after) :
    LogFootprint environment before after where
  kept place entry found := Or.inl (footprint.kept place entry found)
  made place entry missing found := Or.inl (footprint.made place entry missing found)

end LogFootprint

/-- The data directory begins the path of the log, so it leads to the folder around the log. -/
theorem leadsTo_dataDirectory {tree : Tree} {route : Route} {around : Place}
    (followed : environment.logPath.route = .ok route)
    (reached : tree.reach route.outer = .ok around) :
    tree.LeadsTo environment.dataDirectory around := by
  have named : environment.dataDirectory.text ≠ "" := Path.join_ne_empty _ (by decide)
  have begins : environment.dataDirectory.Begins environment.logPath := by
    refine Path.begins_join (Path.relative_of_normal normal_logName) named ?_
    rw [Environment.dataDirectory, Path.getLast?_join _ (by decide)]
    decide
  obtain ⟨dataRoute, dataFollowed⟩ := Path.route_of_begins begins named followed
  rw [Path.route_join_normal normal_logName followed] at reached
  exact (Tree.leadsTo_iff dataFollowed).mpr reached

/-- Whatever is written to the log, no more than the log is changed, which lies in the data directory. -/
theorem footprint_append (environment : Environment) (disk : State) (text : String) :
    LogFootprint environment disk.tree (disk.append environment.logPath text).2.tree := by
  rcases disk.append_cases environment.logPath text with same | ⟨route, after, followed, appended, same⟩
  · rw [same]
    exact .refl environment disk.tree
  rw [same]
  show LogFootprint environment disk.tree after
  obtain ⟨around, name, content, reached, ending, before, found⟩ := Tree.find_of_append appended
  obtain rfl : "component-resolver.log" = name := by
    simpa [Path.route_join_normal normal_logName followed] using ending
  have folders : ∀ place, disk.tree.find place = some .folder → after.find place = some .folder := by
    intro place folder
    rw [found, if_neg]
    · exact folder
    · rintro rfl
      simp [folder] at before
  have isLog : IsLog environment after ("component-resolver.log" :: around) :=
    .keep ⟨around, rfl, leadsTo_dataDirectory followed reached⟩ folders
  constructor
  · intro place entry held
    by_cases here : place = "component-resolver.log" :: around
    · subst here
      rcases before with missing | ⟨old, heldOld, rfl⟩
      · cases missing.symm.trans held
      · obtain rfl : .file old = entry := Option.some.inj (heldOld.symm.trans held)
        exact Or.inr ⟨old, text, rfl, (found _).trans (if_pos rfl), isLog⟩
    · exact Or.inl ((found place).trans ((if_neg here).trans held))
  · intro place entry missing held
    rw [found] at held
    split at held
    · rename_i here
      cases held
      exact Or.inr ⟨⟨content, rfl⟩, here ▸ isLog⟩
    · cases missing.symm.trans held

/-- Opening the log leaves a footprint of the log, whether it succeeds or not. -/
theorem footprint_openLog (environment : Environment) (lines : String) (disk : State) :
    LogFootprint environment disk.tree (openLog environment lines disk).2.tree := by
  have folders : LogFootprint environment disk.tree
      (disk.createFolders environment.dataDirectory).2.tree :=
    .of_folders (footprint_createFolders disk environment.dataDirectory)
  rw [openLog_eq]
  generalize disk.createFolders environment.dataDirectory = made at folders ⊢
  obtain ⟨cause | done, inside⟩ := made
  · exact folders
  · have opened := folders.trans (footprint_append environment inside lines)
    dsimp only at opened ⊢
    generalize inside.append environment.logPath lines = result at opened ⊢
    obtain ⟨cause | done, after⟩ := result <;> exact opened

end ComponentInstall.CommandLine
