import ComponentInstall.Proofs.Disk.Files
import ComponentInstall.Proofs.Disk.Growth
import ComponentInstall.Staging.Folder
import ComponentInstall.Staging.Marker

/-!
# Markers and what leaves them alone

What is remembered of a component is the text of its last record, or nothing. `Agrees` says that the
disk agrees with that: the marker can be read, unless reading is made to fail, and holds the text, or
there is no marker. Then the installed version is what is remembered.

A change to a tree `Spares` a marker if the entry at its place is the same and folders are still
folders; nothing more is needed for the marker to be read as before. Recording and clearing spare all
other markers and leave their own one as it is to be remembered; if they fail they spare that one too.
Whatever happens below the staging root spares all markers, because a way without two dots comes
through the folder of the markers only if its names do.
-/

namespace ComponentInstall.Staging

open ComponentInstall.Disk

/-- The place of a marker below a root. -/
def markerPlace (root : Path) (name : String) : Place := name :: destination root.way

/-- A disk agrees with what is remembered of a component, if anything is. -/
def Agrees (root : Path) (tree : Tree) (name : String) : Option String → Prop
  | some text => (State.plain tree).readText (marker root name) = .ok text
  | none => tree.find (markerPlace root name) = none

/-- The version that is remembered, or the empty text. -/
def versionOf (remembered : Option String) : String := (remembered.map Text.trim).getD ""

/-- A change to a tree that keeps the folders and the markers of the spared components. -/
structure Spares (root : Path) (spared : String → Prop) (before after : Tree) : Prop where
  folders : ∀ place, before.find place = some .folder → after.find place = some .folder
  markers : ∀ name, spared name →
    after.find (markerPlace root name) = before.find (markerPlace root name)

namespace Spares

variable {root : Path} {spared : String → Prop}

theorem refl (tree : Tree) : Spares root spared tree tree where
  folders _ folder := folder
  markers _ _ := rfl

theorem trans {before between after : Tree} (first : Spares root spared before between)
    (second : Spares root spared between after) : Spares root spared before after where
  folders place folder := second.folders place (first.folders place folder)
  markers name member := (second.markers name member).trans (first.markers name member)

theorem weaken {before after : Tree} (spares : Spares root (fun _ => True) before after) :
    Spares root spared before after where
  folders := spares.folders
  markers name _ := spares.markers name trivial

/-- Folders that are made elsewhere spare a marker. -/
theorem of_grows {moves : List Move} {before after : Tree} (grown : Tree.Grows moves before after)
    (elsewhere : ∀ name outer, spared name → outer <:+ moves →
      destination outer ≠ markerPlace root name) : Spares root spared before after where
  folders place := grown.kept place .folder
  markers name member := by
    cases held : before.find (markerPlace root name) with
    | some entry => exact grown.kept _ entry held
    | none =>
      cases found : after.find (markerPlace root name) with
      | none => rfl
      | some entry =>
        obtain ⟨outer, first, same⟩ := grown.new_place held (by simp [found])
        exact absurd same.symm (elsewhere name outer member first)

/-- A change at a single place elsewhere spares a marker. -/
theorem of_single {before after : Tree} {changed : Place} {entry : Option Entry}
    (found : ∀ place, after.find place = if place = changed then entry else before.find place)
    (notFolder : before.find changed ≠ some .folder)
    (elsewhere : ∀ name, spared name → changed ≠ markerPlace root name) :
    Spares root spared before after where
  folders place folder := by
    have other : place ≠ changed := by
      rintro rfl
      exact notFolder folder
    rw [found, if_neg other, folder]
  markers name member := by rw [found, if_neg (elsewhere name member).symm]

/-- A change of one marker spares all others. -/
theorem of_marker {before after : Tree} {name : String} {entry : Option Entry}
    (found : ∀ place, after.find place =
      if place = markerPlace root name then entry else before.find place)
    (notFolder : before.find (markerPlace root name) ≠ some .folder) :
    Spares root (· ≠ name) before after :=
  .of_single found notFolder fun _ differs same => differs (List.cons.inj same).1.symm

end Spares

section

variable {root : Path} {name : String}

/-- A marker can be read where its file is, if nothing stands against following its path. -/
theorem agrees_some_iff {tree : Tree} {text : String} (normal : NormalSegment name) :
    Agrees root tree name (some text) ↔
      (marker root name).route = .ok ⟨root.way, .entry name false⟩ ∧
        tree.reach root.way = .ok (destination root.way) ∧ isTooLong name = false ∧
        tree.find (markerPlace root name) = some (.file (.text text)) := by
  rw [Agrees, State.readText_eq_ok_iff]
  constructor
  · rintro ⟨-, route, followed, read⟩
    obtain rfl := Path.route_join_normal normal followed
    obtain ⟨place, reached, short, found⟩ := Tree.read_entry_eq_ok_iff.mp read
    obtain rfl := Tree.eq_destination_of_reach reached
    exact ⟨followed, reached, short, found⟩
  · rintro ⟨followed, reached, short, found⟩
    exact ⟨rfl, _, followed, Tree.read_entry_eq_ok_iff.mpr ⟨_, reached, short, found⟩⟩

/-- A disk that agrees about a marker agrees after a change that spares it. -/
theorem agrees_of_spares {spared : String → Prop} {before after : Tree} {remembered : Option String}
    (normal : NormalSegment name) (spares : Spares root spared before after) (member : spared name)
    (agrees : Agrees root before name remembered) :
    Agrees root after name remembered := by
  cases remembered with
  | none => exact (spares.markers name member).trans agrees
  | some text =>
    obtain ⟨followed, reached, short, found⟩ := (agrees_some_iff normal).mp agrees
    exact (agrees_some_iff normal).mpr ⟨followed,
      Tree.reach_of_folders spares.folders reached, short,
      (spares.markers name member).trans found⟩

/-- On a disk that agrees, the installed version is the remembered one. -/
theorem current_of_agrees {disk : State} {remembered : Option String} (normal : NormalSegment name)
    (agrees : Agrees root disk.tree name remembered)
    (readable : disk.faults .readText (marker root name) = none) :
    current root name disk = versionOf remembered := by
  cases remembered with
  | some text =>
    have read : disk.readText (marker root name) = .ok text := by
      obtain ⟨-, route, followed, read⟩ := State.readText_eq_ok_iff.mp agrees
      exact State.readText_eq_ok_iff.mpr ⟨readable, route, followed, read⟩
    rw [current_eq, read]
    rfl
  | none =>
    rw [current_eq]
    cases read : disk.readText (marker root name) with
    | error refusal => rfl
    | ok text =>
      obtain ⟨-, route, followed, read⟩ := State.readText_eq_ok_iff.mp read
      obtain rfl := Path.route_join_normal normal followed
      obtain ⟨place, reached, -, found⟩ := Tree.read_entry_eq_ok_iff.mp read
      obtain rfl := Tree.eq_destination_of_reach reached
      cases agrees.symm.trans found

/-- If reading may fail, the installed version is the remembered one or the empty text. -/
theorem current_of_agrees_or_empty (disk : State) {remembered : Option String}
    (normal : NormalSegment name)
    (agrees : Agrees root disk.tree name remembered) :
    current root name disk = versionOf remembered ∨ current root name disk = "" := by
  cases readable : disk.faults .readText (marker root name) with
  | none => exact Or.inl (current_of_agrees normal agrees readable)
  | some fault =>
    right
    simp [current_eq, State.readText, readable]

end

section

variable {root : Path} {names : Place} {name : String}

/-- No marker lies on a way. -/
def Beside (root path : Path) : Prop :=
  ∀ name outer, outer <:+ path.way → destination outer ≠ markerPlace root name

/-- The folders around markers are beside them. -/
theorem beside_self (straight : root.way = names.map .into) : Beside root root := by
  intro name outer first
  rw [straight] at first
  obtain ⟨around, within, rfl⟩ := List.suffix_map_iff.mp first
  intro same
  have longer := congrArg List.length same
  have shorter := within.length_le
  simp only [markerPlace, straight, destination_map_into, List.length_cons] at longer
  omega

/-- What lies in another folder beside that of the markers is beside them. -/
theorem beside_of_inside {path : Path} {own other : String} {places : Place}
    (straight : root.way = (own :: names).map .into) (way : path.way = places.map .into)
    (inside : other :: names <:+ places) (differs : other ≠ own) : Beside root path := by
  intro name outer first same
  rw [way] at first
  obtain ⟨around, within, rfl⟩ := List.suffix_map_iff.mp first
  rw [destination_map_into, markerPlace, straight, destination_map_into] at same
  have markers : own :: names <:+ places := by
    rw [same] at within
    exact (List.suffix_cons _ _).trans within
  exact differs (eq_of_inside inside markers)

/-- Making the folders of a path spares the markers beside it. -/
theorem createFolders_spares {path : Path} (beside : Beside root path) (disk : State) :
    Spares root (fun _ => True) disk.tree (disk.createFolders path).2.tree :=
  .of_grows (disk.createFolders_grows path).2 fun name outer _ first =>
    beside name outer (first.trans path.making_suffix)

/-- Putting a file at a path spares the markers beside it. -/
theorem put_spares {path : Path} (beside : Beside root path) (content : Content) (disk : State) :
    ∃ after, (disk.put path content).2 = disk.withTree after ∧
      Spares root (fun _ => True) disk.tree after := by
  rw [State.put]
  cases followed : path.route with
  | error refusal => exact ⟨disk.tree, rfl, .refl _⟩
  | ok route =>
    have way := Path.way_of_route followed
    have around : route.outer <:+ path.way := by
      rw [← way, Route.way]
      cases route.ending with
      | folder => exact List.suffix_refl _
      | entry name closed => exact List.suffix_cons _ _
    have made : Spares root (fun _ => True) disk.tree (disk.tree.makeFolders route.outer).2 :=
      .of_grows (disk.tree.makeFolders_grows route.outer).1 fun name outer _ first =>
        beside name outer (first.trans around)
    simp only
    generalize disk.tree.makeFolders route.outer = result at made
    obtain ⟨answer, tree⟩ := result
    cases answer with
    | error refusal => exact ⟨tree, rfl, made⟩
    | ok done =>
      simp only
      cases written : tree.write route content with
      | error refusal => exact ⟨tree, rfl, made⟩
      | ok after =>
        obtain ⟨notFolder, found⟩ := Tree.find_of_write written
        have last : Spares root (fun _ => True) tree after :=
          .of_single found notFolder fun name _ =>
            way ▸ beside name path.way (List.suffix_refl _)
        exact ⟨after, rfl, made.trans last⟩

/-- Writing the marker makes the disk agree that it was written and spares all others. -/
theorem agrees_of_written {disk : State} {route : Route} {after : Tree} {text : String}
    (normal : NormalSegment name)
    (followed : (marker root name).route = .ok route)
    (written : disk.tree.write route (.text text) = .ok after) :
    Spares root (· ≠ name) disk.tree after ∧
      Agrees root after name (some text) := by
  obtain rfl := Path.route_join_normal normal followed
  obtain ⟨notFolder, found⟩ := Tree.find_of_write written
  have spares := Spares.of_marker found notFolder
  obtain ⟨place, last, reached, ending, short, -, -⟩ := Tree.write_eq_ok_iff.mp written
  obtain rfl : name = last := by simpa using ending
  obtain rfl := Tree.eq_destination_of_reach reached
  exact ⟨spares, (agrees_some_iff normal).mpr ⟨followed,
    Tree.reach_of_folders spares.folders reached, short, (found _).trans (if_pos rfl)⟩⟩

/-- Recording a version either fails and spares all markers, or spares all others and makes the disk
agree with the version. -/
theorem record_cases (straight : root.way = names.map .into) (normal : NormalSegment name)
    (text : String) (disk : State) :
    ∃ after, (record root name text disk).2 = disk.withTree after ∧
      ((record root name text disk).1.isOk = false ∧ Spares root (fun _ => True) disk.tree after ∨
        (record root name text disk).1.isOk = true ∧ Spares root (· ≠ name) disk.tree after ∧
          Agrees root after name (some text)) := by
  have changed := (disk.createFolders_grows root).1
  have made := createFolders_spares (beside_self straight) disk
  generalize (disk.createFolders root).2.tree = around at changed made
  rw [record_eq]
  generalize disk.createFolders root = result at changed
  obtain ⟨answer, rest⟩ := result
  obtain rfl : rest = disk.withTree around := changed
  cases answer with
  | error cause => exact ⟨around, rfl, Or.inl ⟨rfl, made⟩⟩
  | ok done =>
    rcases (disk.withTree around).writeText_cases (marker root name) text with
      ⟨refusal, same⟩ | ⟨route, after, -, followed, written, same⟩
    · simp only [same]
      exact ⟨around, rfl, Or.inl ⟨rfl, made⟩⟩
    · simp only [same]
      obtain ⟨spares, agrees⟩ := agrees_of_written normal followed written
      exact ⟨after, rfl, Or.inr ⟨rfl, made.weaken.trans spares, agrees⟩⟩

/-- Clearing a marker either fails and changes nothing, or spares all others and makes the disk agree
that there is none. -/
theorem clear_cases (straight : root.way = names.map .into) (normal : NormalSegment name)
    (disk : State) (honest : ∀ fault,
      disk.faults .removeFile (marker root name) = some fault → fault.kind ≠ .notFound) :
    ∃ after, (clear root name disk).2 = disk.withTree after ∧
      ((clear root name disk).1.isOk = false ∧ after = disk.tree ∨
        (clear root name disk).1.isOk = true ∧ Spares root (· ≠ name) disk.tree after ∧
          Agrees root after name none) := by
  rw [clear_eq]
  rcases disk.removeFile_cases (marker root name) with
    ⟨refusal, same, reason⟩ | ⟨route, after, followed, removed, same⟩
  · simp only [same]
    by_cases missing : refusal.kind = .notFound
    · simp only [missing, if_true]
      refine ⟨disk.tree, rfl, Or.inr ⟨rfl, .refl _, ?_⟩⟩
      rcases reason with refused | refused | ⟨route, followed, refused⟩
      · exact absurd missing (honest refusal refused)
      · exact absurd missing (Path.kind_of_unfollowed (Path.join_ne_empty root normal.named) refused)
      · obtain rfl := Path.route_join_normal normal followed
        rw [straight] at refused
        have absent := Tree.find_of_removeFile_missing refused missing
        rwa [Agrees, markerPlace, straight, destination_map_into]
    · simp only [missing, if_false]
      exact ⟨disk.tree, rfl, Or.inl ⟨rfl, rfl⟩⟩
  · simp only [same]
    obtain rfl := Path.route_join_normal normal followed
    obtain ⟨notFolder, found⟩ := Tree.find_of_removeFile removed
    exact ⟨after, rfl, Or.inr ⟨rfl, .of_marker found notFolder, (found _).trans (if_pos rfl)⟩⟩

end

end ComponentInstall.Staging
