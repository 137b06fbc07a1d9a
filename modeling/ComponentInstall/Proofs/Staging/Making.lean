import ComponentInstall.Proofs.Disk.Plain
import ComponentInstall.Staging.Folder

/-!
# What making a staging folder does

The folder of a version is made unless a file lies on the way to it or a name on the way is too long for
any entry. What is made are the folders that were missing, each of them empty and nothing else, and if a
name is too long, those before it. A file on the way leaves the disk as it was. The refusal is that of the
disk for the whole path, and which one it is follows from the files on the way and the names alone.
-/

namespace ComponentInstall.Staging

open ComponentInstall.Disk

/-- What making the folder at a path does to a disk: when it succeeds, how it fails, and which entries
there are behind it. -/
structure MadeExactly (disk : State) (path : Path) (outcome : Except StagingError Path × State) :
    Prop where
  succeeds : outcome.1 = .ok path ↔
    ¬ disk.tree.Blocked path.names ∧ ∀ name ∈ path.names, isTooLong name = false
  returned : ∀ made, outcome.1 = .ok made → made = path
  refused : ∀ error, outcome.1 = .error error → ∃ cause, error = .createFolder path cause ∧
    (disk.createFolders path).1 = .error cause ∧
      Tree.hindrance disk.tree.holdsFile path.names = some cause
  settled : outcome.2 = disk.withTree outcome.2.tree
  whole : outcome.1 = .ok path →
    Tree.Adds (disk.tree.Missing path.names) disk.tree outcome.2.tree
  blocked : disk.tree.Blocked path.names → outcome.2 = disk
  halted : outcome.1 ≠ .ok path → ¬ disk.tree.Blocked path.names →
    Tree.Adds (fun place => disk.tree.Missing path.names place ∧
      ∀ name ∈ place, isTooLong name = false) disk.tree outcome.2.tree

/-- Making the staging folder of a version has an exact effect, wherever the version is staged, as long as
the path to it has nothing but names. -/
theorem createFolder_exact {root : Path} {name version : String} {disk : State}
    (able : disk.faults .createFolders ((root.join ⟨name⟩).join ⟨version⟩) = none)
    (plain : ((root.join ⟨name⟩).join ⟨version⟩).Plain) :
    MadeExactly disk ((root.join ⟨name⟩).join ⟨version⟩) (createFolder root name version disk) := by
  rw [createFolder_eq, folder]
  generalize (root.join ⟨name⟩).join ⟨version⟩ = path at able plain
  have made := State.createFolders_of_plain plain able
  have answer : (disk.createFolders path).1 =
      Tree.answerOf (Tree.hindrance disk.tree.holdsFile path.names) := by
    rw [made, Tree.makeFolders_names]
  have behind : (disk.createFolders path).2 =
      disk.withTree (disk.tree.makeFolders (path.names.map .into)).2 := by rw [made]
  rw [answer, behind]
  have clear : Tree.hindrance disk.tree.holdsFile path.names = none ↔
      ¬ disk.tree.Blocked path.names ∧ ∀ name ∈ path.names, isTooLong name = false :=
    Tree.hindrance_eq_none_iff
  have added (unblocked : ¬ disk.tree.Blocked path.names) :=
    Tree.adds_makeFolders_names unblocked
  cases hindered : Tree.hindrance disk.tree.holdsFile path.names with
  | none =>
    obtain ⟨unblocked, short⟩ := clear.mp hindered
    have all : (fun place => disk.tree.Missing path.names place ∧
        ∀ name ∈ place, isTooLong name = false) = disk.tree.Missing path.names := by
      funext place
      exact propext (and_iff_left_of_imp fun missing name member =>
        short name (missing.1.subset member))
    exact {
      succeeds := iff_of_true rfl ⟨unblocked, short⟩
      returned := fun other same => (Except.ok.inj same).symm
      refused := fun error failed => nomatch failed
      settled := rfl
      whole := fun _ => all ▸ added unblocked
      blocked := fun blocked => absurd blocked unblocked
      halted := fun failed => absurd rfl failed }
  | some cause =>
    have unclear := mt clear.mpr (by simp [hindered])
    exact {
      succeeds := iff_of_false (by simp [Tree.answerOf]) unclear
      returned := fun other failed => nomatch failed
      refused := fun error failed => by
        obtain rfl := Except.error.inj failed
        exact ⟨cause, rfl, by rw [answer, hindered]; rfl, hindered⟩
      settled := rfl
      whole := fun done => nomatch done
      blocked := fun blocked => by rw [Tree.makeFolders_of_blocked blocked]; rfl
      halted := fun _ unblocked => added unblocked }

/-- A version with a slash in it is staged below a folder of its own. -/
theorem createFolder_exact_of_divided_version :
    let path : Path := ⟨"agent/components/PVDriver/old/1.0.0"⟩
    ((Path.join ⟨"agent/components"⟩ ⟨"PVDriver"⟩).join ⟨"old/1.0.0"⟩ = path ∧ path.Plain) ∧
      MadeExactly (.plain .empty) path
        (createFolder ⟨"agent/components"⟩ "PVDriver" "old/1.0.0" (.plain .empty)) := by
  intro path
  have joined : (Path.join ⟨"agent/components"⟩ ⟨"PVDriver"⟩).join ⟨"old/1.0.0"⟩ = path := by
    decide +kernel
  have plain : path.Plain := ⟨by decide +kernel, by decide +kernel, by decide +kernel, by decide +kernel⟩
  refine ⟨⟨joined, plain⟩, ?_⟩
  rw [← joined] at plain ⊢
  exact createFolder_exact rfl plain

end ComponentInstall.Staging
