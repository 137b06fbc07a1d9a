import ComponentInstall.Proofs.Disk.Files
import ComponentInstall.Proofs.Disk.Growth

/-!
# Reading where folders are new

A path without two dots leads to one place only, and through the folders around it, which are there as
soon as the place has an entry. So where nothing but folders is new, a file on such a path can be read
exactly if it could be read before: new folders cannot open the way to it. A path with two dots is
different, because it may lead through a folder that is missing at first.
-/

namespace ComponentInstall.Disk

namespace Tree

/-- Names that are not too long can be followed where they lead to a folder. -/
theorem reach_of_short {tree : Tree} {names : Place} (short : Short (names.map .into))
    (folder : tree.find names = some .folder) : tree.reach (names.map .into) = .ok names := by
  induction names with
  | nil => rfl
  | cons name outer inductionHypothesis =>
    have around : tree.find outer = some .folder := tree.find_outer name outer (by simp [folder])
    have reached := inductionHypothesis (short.of_suffix (List.suffix_cons _ _)) around
    have step : tree.step outer (.into name) = .ok (name :: outer) :=
      step_into_eq_ok_iff.mpr ⟨short name List.mem_cons_self, folder, rfl⟩
    exact reach_cons_eq_ok_iff.mpr ⟨outer, reached, step⟩

/-- Along names, the same texts can be read. -/
theorem read_of_gains {before after : Tree} {route : Route} {names : Place} {text : String}
    (gains : GainsFolders before after) (straight : route.way = names.map .into) :
    after.read route = .ok text ↔ before.read route = .ok text := by
  constructor
  · intro read
    obtain ⟨place, name, reached, ending, short, found⟩ := read_eq_ok_iff.mp read
    obtain ⟨rest, outerWay⟩ : ∃ rest : Place, route.outer = rest.map .into := by
      rw [Route.way, ending] at straight
      cases names with
      | nil => cases straight
      | cons first rest => exact ⟨rest, (List.cons.inj straight).2⟩
    have shortOuter := short_of_reach reached
    obtain rfl := eq_destination_of_reach reached
    rw [outerWay] at shortOuter
    rw [outerWay, destination_map_into] at found
    have file := gains.file_iff.mp found
    have around : before.find rest = some .folder := before.find_outer name rest (by simp [file])
    refine read_eq_ok_iff.mpr ⟨rest, name, ?_, ending, short, file⟩
    rw [outerWay]
    exact reach_of_short shortOuter around
  · intro read
    obtain ⟨place, name, reached, ending, short, found⟩ := read_eq_ok_iff.mp read
    exact read_eq_ok_iff.mpr
      ⟨place, name, reach_of_kept gains.kept reached, ending, short, gains.kept _ _ found⟩

end Tree

/-- On a path without two dots, the same texts can be read. -/
theorem State.readText_of_gains {disk : State} {tree : Tree} {path : Path} {names : Place}
    {text : String} (gains : Tree.GainsFolders disk.tree tree)
    (straight : path.way = names.map .into) :
    (disk.withTree tree).readText path = .ok text ↔ disk.readText path = .ok text := by
  rw [readText_eq_ok_iff, readText_eq_ok_iff]
  have sameFaults : (disk.withTree tree).faults .readText path = disk.faults .readText path := rfl
  rw [sameFaults]
  apply and_congr_right
  intro _
  apply exists_congr
  intro route
  apply and_congr_right
  intro followed
  have routeStraight : route.way = names.map .into := (Path.way_of_route followed).trans straight
  exact Tree.read_of_gains gains routeStraight

end ComponentInstall.Disk
