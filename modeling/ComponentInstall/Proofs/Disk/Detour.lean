import ComponentInstall.Proofs.Disk.Exact
import ComponentInstall.Proofs.Disk.Reading

/-!
# Ways without a detour

With two dots a way can enter a folder and leave it again for another one. Such a detour matters,
although it does not show in where the way ends: the way can only be followed if the folder is there that
it leaves, and a call that makes folders for the way makes that folder too. A way is direct if it stays
with the folders around its destination. Then it can be followed as soon as there is a folder at its
destination, and nothing that is made for it lies in that folder.
-/

namespace ComponentInstall.Disk

/-- Moves that keep to the folders around their destination. -/
def Direct (moves : List Move) : Prop :=
  ∀ outer, outer <:+ moves → destination outer <:+ destination moves

theorem direct_map_into (names : Place) : Direct (names.map .into) := by
  intro outer first
  obtain ⟨around, within, rfl⟩ := List.suffix_map_iff.mp first
  rw [destination_map_into, destination_map_into]
  exact within

/-- Without two dots there is no detour. -/
theorem direct_of_straight {path : Path} (straight : ['.', '.'] ∉ path.segments) : Direct path.way := by
  obtain ⟨names, way⟩ := Path.way_of_straight straight
  rw [way]
  exact direct_map_into names

/-- Moves that are not direct enter a folder that is not around their destination. -/
theorem exists_beside_of_not_direct {moves : List Move} (detour : ¬ Direct moves) :
    ∃ outer, outer <:+ moves ∧ ¬ destination outer <:+ destination moves := by
  simpa [Direct] using detour

/-- Where moves lead has only names that they have. -/
theorem into_mem_of_mem_destination {moves : List Move} {name : String}
    (member : name ∈ destination moves) : .into name ∈ moves := by
  induction moves with
  | nil => cases member
  | cons move outer inductionHypothesis =>
    cases move with
    | up => exact List.mem_cons_of_mem _ (inductionHypothesis (List.mem_of_mem_tail member))
    | into other =>
      rcases List.mem_cons.mp member with rfl | later
      · exact List.mem_cons_self
      · exact List.mem_cons_of_mem _ (inductionHypothesis later)

namespace Tree

variable {tree : Tree} {moves : List Move} {place around : Place}

/-- There are folders around everything that has an entry. -/
theorem find_of_suffix (held : tree.find place = some .folder) (first : around <:+ place) :
    tree.find around = some .folder := by
  induction place with
  | nil =>
    obtain rfl := List.suffix_nil.mp first
    exact held
  | cons name outer inductionHypothesis =>
    rcases List.suffix_cons_iff.mp first with rfl | within
    · exact held
    · exact inductionHypothesis (tree.find_outer name outer (by simp [held])) within

/-- Moves can be followed if each of them leads to a folder. -/
theorem reach_of_all_folders (short : Short moves)
    (folders : ∀ outer, outer <:+ moves → tree.find (destination outer) = some .folder) :
    tree.reach moves = .ok (destination moves) := by
  induction moves with
  | nil => rfl
  | cons move outer inductionHypothesis =>
    have earlier : outer <:+ move :: outer := List.suffix_cons move outer
    have reached := inductionHypothesis (short.of_suffix earlier)
      fun inner first => folders inner (first.trans earlier)
    refine reach_cons_eq_ok_iff.mpr ⟨_, reached, ?_⟩
    cases move with
    | up => rfl
    | into name =>
      exact step_into_eq_ok_iff.mpr
        ⟨short name List.mem_cons_self, folders _ (List.suffix_refl _), rfl⟩

/-- Direct moves can be followed if there is a folder at their destination. -/
theorem reach_of_direct (direct : Direct moves) (short : Short moves)
    (folder : tree.find (destination moves) = some .folder) :
    tree.reach moves = .ok (destination moves) :=
  reach_of_all_folders short fun outer first => find_of_suffix folder (direct outer first)

end Tree

/-- Whatever lies at the destination of direct moves was not made for them. -/
theorem State.held_of_direct {path : Path} {before : State} {child : String}
    (direct : Direct path.way)
    (held : (before.createFolders path).2.tree.find (child :: destination path.way) ≠ none) :
    before.tree.find (child :: destination path.way) ≠ none := by
  intro missing
  apply held
  refine ((before.adds_createFolders path).find_eq_none_iff ?_).mpr missing
  rintro ⟨-, -, outer, first, same, -⟩
  have within := direct outer (first.trans path.making_suffix)
  rw [same] at within
  exact absurd within.length_le (by simp)

/-- A name that is not too long and differs from another one. -/
theorem exists_other_name (name : String) : ∃ other, other ≠ name ∧ isTooLong other = false := by
  by_cases same : name = "b"
  · exact ⟨"c", by simp [same], by decide⟩
  · exact ⟨"b", fun other => same other.symm, by decide⟩

/-- For moves that are not direct there is a tree with something at their destination to which they do
not lead, because the folder that they enter on the way is missing. -/
theorem exists_unreached {moves : List Move} (short : Short moves) (detour : ¬ Direct moves) :
    ∃ tree : Tree, ∃ child, tree.find (child :: destination moves) = some .folder ∧
      tree.Passable moves ∧ ∀ place, tree.reach moves ≠ .ok place := by
  obtain ⟨outer, first, beside⟩ := exists_beside_of_not_direct detour
  cases entered : destination outer with
  | nil => exact absurd (List.nil_suffix) (entered ▸ beside)
  | cons name around =>
    obtain ⟨child, differs, childShort⟩ := exists_other_name name
    let inside : Place := child :: destination moves
    have insideShort : Short (inside.map .into) := by
      intro other member
      obtain ⟨same, whole, ⟨⟩⟩ := List.mem_map.mp member
      rcases List.mem_cons.mp whole with rfl | further
      · exact childShort
      · exact short other (into_mem_of_mem_destination further)
    have added := Tree.empty.adds_makeFolders (inside.map .into)
    obtain ⟨place, reached⟩ := Tree.reach_makeFolders_of_passable
      (Tree.passable_empty insideShort) (List.suffix_refl _)
    obtain rfl : place = inside := by
      rw [Tree.eq_destination_of_reach reached, destination_map_into]
    refine ⟨_, child, Tree.find_of_reach reached,
      (Tree.passable_iff_of_gains added.gains).mpr (Tree.passable_empty short), ?_⟩
    intro there followed
    -- Only the folders around `inside` are there, and the one that is entered is none of them.
    have held := Tree.find_of_reach (Tree.reach_of_suffix followed first)
    rcases (added _ _).mp held with before | ⟨-, inner, within, same, -⟩
    · rw [entered] at before
      cases before
    · obtain ⟨front, belongs, rfl⟩ := List.suffix_map_iff.mp within
      rw [destination_map_into] at same
      rw [same, entered] at belongs
      rcases List.suffix_cons_iff.mp belongs with whole | further
      · exact differs (List.cons.inj whole).1.symm
      · exact beside (entered ▸ further)

end ComponentInstall.Disk
