import ComponentInstall.Proofs.Disk.Files
import ComponentInstall.Proofs.Disk.Growth

/-!
# Calls whose work is done

Making folders that are there changes nothing, whatever the spelling of the path: where a call has
succeeded the whole way can be followed, and making the folders of a way that can be followed is no
more than following it. Nor does it matter what happened to the disk in between, as long as folders are
still folders. A disk that `Continues` another one has that, and it refuses the same calls.

What was written to a path is read back from it, because the same way leads to the same file.
-/

namespace ComponentInstall.Disk

namespace Tree

/-- Making the folders of moves that can be followed changes nothing. -/
theorem makeFolders_of_reach {tree : Tree} {moves : List Move} {place : Place}
    (reached : tree.reach moves = .ok place) : tree.makeFolders moves = (.ok (), tree) := by
  cases moves with
  | nil => rfl
  | cons move outer =>
    have leads : tree.leadsToFolder (move :: outer) = true := leadsToFolder_iff.mpr ⟨place, reached⟩
    obtain ⟨around, reachedOuter, stepped⟩ := reach_cons_eq_ok_iff.mp reached
    have present : tree.makeFolder outer move = .error .present := by
      cases move with
      | up => simp [makeFolder, reachedOuter]
      | into name =>
        obtain ⟨short, folder, -⟩ := step_into_eq_ok_iff.mp stepped
        simp [makeFolder, reachedOuter, short, folder]
    have notMissing : IoError.present.kind ≠ .notFound := by decide
    simp [makeFolders, present, notMissing, leads]

theorem makeWay_of_reach {tree : Tree} {route : Route} {place : Place}
    (reached : tree.reach route.way = .ok place) : tree.makeWay route = (.ok (), tree) := by
  obtain ⟨outer, ending⟩ := route
  cases ending with
  | entry name closed => exact makeFolders_of_reach reached
  | folder =>
    have whole : tree.reach outer = .ok place := reached
    simp [makeWay, whole]

/-- Where making a way has succeeded, the way can be followed. -/
theorem reach_of_makeWay {tree : Tree} {route : Route} (made : (tree.makeWay route).1 = .ok ()) :
    ∃ place, (tree.makeWay route).2.reach route.way = .ok place := by
  obtain ⟨outer, ending⟩ := route
  cases ending with
  | entry name closed => exact (tree.makeFolders_grows (.into name :: outer)).2 made
  | folder =>
    simp only [makeWay, Route.way] at made ⊢
    cases reached : tree.reach outer with
    | ok place => exact ⟨place, reached⟩
    | error refusal =>
      simp only [reached] at made ⊢
      by_cases missing : refusal.kind = .notFound
      · simp only [missing, if_true] at made ⊢
        generalize tree.makeFolders outer.tail = result at made ⊢
        obtain ⟨answer, around⟩ := result
        cases answer with
        | error refusal => cases made
        | ok done =>
          simp only at made ⊢
          cases reachedNow : around.reach outer with
          | error refusal => simp [reachedNow] at made
          | ok place => exact ⟨place, reachedNow⟩
      · simp [missing] at made

/-- What was written is read back. -/
theorem read_of_write {tree after : Tree} {route : Route} {text : String}
    (written : tree.write route (.text text) = .ok after) : after.read route = .ok text := by
  obtain ⟨notFolder, found⟩ := find_of_write written
  obtain ⟨place, name, reached, ending, short, -, -⟩ := write_eq_ok_iff.mp written
  have folders (other : Place) (folder : tree.find other = some .folder) :
      after.find other = some .folder := by
    have elsewhere : other ≠ destination route.way := by
      rintro rfl
      exact notFolder folder
    rw [found, if_neg elsewhere, folder]
  have here : name :: place = destination route.way := by
    rw [Route.way, ending, eq_destination_of_reach reached]
    rfl
  have file : after.find (name :: place) = some (.file (.text text)) := by rw [found, if_pos here]
  exact read_eq_ok_iff.mpr ⟨place, name, reach_of_folders folders reached, ending, short, file⟩

end Tree

namespace State

/-- A later disk, on which folders are still folders and the same calls are refused. -/
structure Continues (before after : State) : Prop where
  surroundings : after = before.withTree after.tree
  folders : ∀ place, before.tree.find place = some .folder → after.tree.find place = some .folder

namespace Continues

theorem refl (disk : State) : Continues disk disk where
  surroundings := rfl
  folders _ folder := folder

theorem trans {before between after : State} (first : Continues before between)
    (second : Continues between after) : Continues before after where
  surroundings := by
    rw [second.surroundings, first.surroundings]
    rfl
  folders place folder := second.folders place (first.folders place folder)

theorem faults {before after : State} (continues : Continues before after) :
    after.faults = before.faults := by
  rw [continues.surroundings]
  rfl

end Continues

theorem continues_createFolders (disk : State) (path : Path) :
    Continues disk (disk.createFolders path).2 where
  surroundings := (disk.createFolders_grows path).1
  folders place folder := (disk.createFolders_grows path).2.kept place .folder folder

theorem continues_writeText (disk : State) (path : Path) (text : String) :
    Continues disk (disk.writeText path text).2 := by
  rcases disk.writeText_cases path text with ⟨refusal, same⟩ | ⟨route, after, -, -, written, same⟩
  · rw [same]
    exact .refl disk
  · rw [same]
    obtain ⟨notFolder, found⟩ := Tree.find_of_write written
    constructor
    · rfl
    · intro place folder
      have elsewhere : place ≠ destination route.way := by
        rintro rfl
        exact notFolder folder
      exact (found place).trans ((if_neg elsewhere).trans folder)

/-- A call that is not refused makes the way of its path. -/
theorem createFolders_of_route {disk : State} {path : Path} {route : Route}
    (allowed : disk.faults .createFolders path = none) (followed : path.route = .ok route) :
    disk.createFolders path =
      ((disk.tree.makeWay route).1, disk.withTree (disk.tree.makeWay route).2) := by
  obtain ⟨⟨-, named, -⟩, -⟩ := Path.route_eq_ok_iff.mp followed
  simp [createFolders, allowed, named, followed]

/-- A call that succeeds is not refused, and its path can be followed unless it is empty. -/
theorem route_of_createFolders {disk : State} {path : Path}
    (made : (disk.createFolders path).1 = .ok ()) :
    disk.faults .createFolders path = none ∧
      (path.text = "" ∨ ∃ route, path.route = .ok route) := by
  rw [createFolders] at made
  cases allowed : disk.faults .createFolders path with
  | some refusal => simp [allowed] at made
  | none =>
    refine ⟨rfl, ?_⟩
    by_cases empty : path.text = ""
    · exact Or.inl empty
    · cases followed : path.route with
      | error refusal => simp [allowed, empty, followed] at made
      | ok route => exact Or.inr ⟨route, rfl⟩

/-- The way of a path for which a call has succeeded can be followed from then on. -/
theorem reach_of_createFolders {disk : State} {path : Path} {route : Route}
    (followed : path.route = .ok route) (made : (disk.createFolders path).1 = .ok ()) :
    ∃ place, (disk.createFolders path).2.tree.reach path.way = .ok place := by
  obtain ⟨allowed, -⟩ := route_of_createFolders made
  rw [createFolders_of_route allowed followed] at made ⊢
  rw [← Path.way_of_route followed]
  exact Tree.reach_of_makeWay made

/-- Once folders were made for a path, making them again succeeds and changes nothing. -/
theorem createFolders_again {disk after later : State} {path : Path}
    (made : disk.createFolders path = (.ok (), after)) (continues : Continues after later) :
    later.createFolders path = (.ok (), later) := by
  have succeeded : (disk.createFolders path).1 = .ok () := by rw [made]
  have continuesMaking := continues_createFolders disk path
  rw [made] at continuesMaking
  obtain ⟨allowedBefore, followable⟩ := route_of_createFolders succeeded
  have allowed : later.faults .createFolders path = none := by
    rw [continues.faults, continuesMaking.faults]
    exact allowedBefore
  rcases followable with empty | ⟨route, followed⟩
  · simp [createFolders, allowed, empty]
  · obtain ⟨place, reached⟩ := reach_of_createFolders followed succeeded
    rw [made] at reached
    have reachedLater := Tree.reach_of_folders continues.folders reached
    rw [← Path.way_of_route followed] at reachedLater
    rw [createFolders_of_route allowed followed, Tree.makeWay_of_reach reachedLater]
    rfl

/-- What was written to a path is read back from it, unless reading is made to fail. -/
theorem readText_of_writeText {disk after : State} {path : Path} {text : String}
    (readable : disk.faults .readText path = none)
    (written : disk.writeText path text = (.ok (), after)) : after.readText path = .ok text := by
  rcases disk.writeText_cases path text with
    ⟨refusal, same⟩ | ⟨route, tree, allowed, followed, writtenTree, same⟩
  · rw [same] at written
    cases written
  · obtain rfl : disk.withTree tree = after := congrArg Prod.snd (same.symm.trans written)
    exact readText_eq_ok_iff.mpr ⟨readable, route, followed, Tree.read_of_write writtenTree⟩

end State

end ComponentInstall.Disk
