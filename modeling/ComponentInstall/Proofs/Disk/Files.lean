import ComponentInstall.Disk.State
import ComponentInstall.Proofs.Disk.Reach

/-!
# What calls on files do to a tree

Reading, writing and removing a file first follow the way to the folder around it, and then look at
one entry of that folder. So each of them succeeds exactly if the way can be followed and the entry
is fit for it, and a call that succeeds changes a tree at a single place, which is never that of a
folder. A file that is reported as missing is missing, wherever on the way that was noticed.

A call on a path does the same, unless it is refused before or the path cannot be followed.
-/

namespace ComponentInstall.Disk

namespace Tree

/-- Reading succeeds exactly at a file with a text, and if no slash follows its name. -/
theorem read_eq_ok_iff {tree : Tree} {route : Route} {text : String} :
    tree.read route = .ok text ↔
      ∃ place name, tree.reach route.outer = .ok place ∧ route.ending = .entry name false ∧
        isTooLong name = false ∧ tree.find (name :: place) = some (.file (.text text)) := by
  have reads : tree.read route = .ok text ↔
      ∃ place, tree.resolve route = .ok (place, .file (.text text)) := by
    rw [read]
    cases tree.resolve route with
    | error refusal => simp
    | ok found =>
      obtain ⟨place, entry⟩ := found
      cases entry with
      | folder => simp
      | file content => cases content <;> simp
  rw [reads]
  constructor
  · rintro ⟨_, resolved⟩
    obtain ⟨place, name, reached, ending, short, held, -⟩ := resolve_file_iff.mp resolved
    exact ⟨place, name, reached, ending, short, held⟩
  · rintro ⟨place, name, reached, ending, short, held⟩
    exact ⟨_, resolve_file_iff.mpr ⟨place, name, reached, ending, short, held, rfl⟩⟩

theorem read_entry_eq_ok_iff {tree : Tree} {outer : List Move} {name text : String} :
    tree.read ⟨outer, .entry name false⟩ = .ok text ↔
      ∃ place, tree.reach outer = .ok place ∧ isTooLong name = false ∧
        tree.find (name :: place) = some (.file (.text text)) := by
  rw [read_eq_ok_iff]
  simp

theorem write_eq_ok_iff {tree after : Tree} {route : Route} {content : Content} :
    tree.write route content = .ok after ↔
      ∃ place name, tree.reach route.outer = .ok place ∧ route.ending = .entry name false ∧
        isTooLong name = false ∧ tree.find (name :: place) ≠ some .folder ∧
        tree.add name place (.file content) = after := by
  obtain ⟨outer, ending⟩ := route
  simp only [write]
  cases tree.reach outer with
  | error refusal => simp
  | ok place =>
    cases ending with
    | folder => simp
    | entry name closed =>
      cases closed with
      | true => simp
      | false =>
        cases short : isTooLong name with
        | true => simp [short]
        | false =>
          cases held : tree.find (name :: place) with
          | none => simp [short, held]
          | some entry => cases entry <;> simp [short, held]

theorem removeFile_eq_ok_iff {tree after : Tree} {route : Route} :
    tree.removeFile route = .ok after ↔
      ∃ place name content, tree.reach route.outer = .ok place ∧
        route.ending = .entry name false ∧ isTooLong name = false ∧
        tree.find (name :: place) = some (.file content) ∧ tree.remove name place = after := by
  obtain ⟨outer, ending⟩ := route
  simp only [removeFile]
  cases tree.reach outer with
  | error refusal => simp
  | ok place =>
    cases ending with
    | folder => simp
    | entry name closed =>
      cases short : isTooLong name with
      | true => simp [short]
      | false =>
        cases held : tree.find (name :: place) with
        | none => simp [short, held]
        | some entry => cases entry <;> cases closed <;> simp [short, held]

/-- Writing behind a file changes a tree only there. The file lies in the folder that the way leads to,
and it has what it held before in front, unless it is new. -/
theorem find_of_append {tree after : Tree} {route : Route} {text : String}
    (appended : tree.append route text = .ok after) :
    ∃ place name content, tree.reach route.outer = .ok place ∧ route.ending = .entry name false ∧
      (tree.find (name :: place) = none ∨
        ∃ old, tree.find (name :: place) = some (.file old) ∧ content = old.append text) ∧
      ∀ other, after.find other =
        if other = name :: place then some (.file content) else tree.find other := by
  rw [append] at appended
  split at appended
  · rename_i found old resolved
    obtain ⟨around, _, reachedFile, endingFile, -, held, rfl⟩ := resolve_file_iff.mp resolved
    obtain ⟨place, name, reached, ending, -, free, rfl⟩ := write_eq_ok_iff.mp appended
    obtain rfl : around = place := Except.ok.inj (reachedFile.symm.trans reached)
    obtain ⟨rfl, -⟩ := Ending.entry.inj (endingFile.symm.trans ending)
    exact ⟨around, _, _, reached, ending, Or.inr ⟨old, held, rfl⟩,
      fun other => tree.find_add _ _ other _ (find_of_reach reached) free⟩
  · rename_i noFile
    obtain ⟨place, name, reached, ending, short, free, rfl⟩ := write_eq_ok_iff.mp appended
    refine ⟨place, name, _, reached, ending, Or.inl ?_,
      fun other => tree.find_add _ _ other _ (find_of_reach reached) free⟩
    cases held : tree.find (name :: place) with
    | none => rfl
    | some entry =>
      cases entry with
      | folder => exact absurd held free
      | file content =>
        -- a file that is there is what the way leads to
        have resolved := resolve_file_iff.mpr ⟨place, name, reached, ending, short, held, rfl⟩
        exact absurd resolved (noFile (name :: place) content)

/-- Writing changes a tree only where its way leads, and there no folder was. -/
theorem find_of_write {tree after : Tree} {route : Route} {content : Content}
    (written : tree.write route content = .ok after) :
    tree.find (destination route.way) ≠ some .folder ∧
      ∀ place, after.find place =
        if place = destination route.way then some (.file content) else tree.find place := by
  obtain ⟨place, name, reached, ending, -, free, rfl⟩ := write_eq_ok_iff.mp written
  obtain rfl := eq_destination_of_reach reached
  have way : destination route.way = name :: destination route.outer := by
    rw [Route.way, ending]
    rfl
  rw [way]
  exact ⟨free, fun other => tree.find_add name _ other (.file content) (find_of_reach reached) free⟩

/-- Removing changes a tree only where its way leads, and there a file was. -/
theorem find_of_removeFile {tree after : Tree} {route : Route}
    (removed : tree.removeFile route = .ok after) :
    tree.find (destination route.way) ≠ some .folder ∧
      ∀ place, after.find place =
        if place = destination route.way then none else tree.find place := by
  obtain ⟨place, name, content, reached, ending, -, held, rfl⟩ := removeFile_eq_ok_iff.mp removed
  obtain rfl := eq_destination_of_reach reached
  have way : destination route.way = name :: destination route.outer := by
    rw [Route.way, ending]
    rfl
  have free : tree.find (name :: destination route.outer) ≠ some .folder := by simp [held]
  rw [way]
  exact ⟨free, fun other => tree.find_remove name _ other free⟩

/-- Names that are there as folders can be followed, unless one of them is too long. -/
theorem reach_of_names {tree : Tree} {names : Place} (folder : tree.find names = some .folder) :
    tree.reach (names.map .into) = .ok names ∨ tree.reach (names.map .into) = .error .nameTooLong := by
  induction names with
  | nil => exact Or.inl rfl
  | cons name outer inductionHypothesis =>
    have around : tree.find outer = some .folder := tree.find_outer name outer (by simp [folder])
    rw [List.map_cons, reach]
    rcases inductionHypothesis around with reached | tooLong
    · cases short : isTooLong name with
      | true => simp [reached, step, short]
      | false => simp [reached, step, short, folder]
    · simp [tooLong]

/-- A file that is reported as missing is missing. -/
theorem find_of_removeFile_missing {tree : Tree} {names : Place} {name : String} {refusal : IoError}
    (refused : tree.removeFile ⟨names.map .into, .entry name false⟩ = .error refusal)
    (missing : refusal.kind = .notFound) : tree.find (name :: names) = none := by
  cases held : tree.find (name :: names) with
  | none => rfl
  | some entry =>
    exfalso
    simp only [removeFile] at refused
    rcases reach_of_names (tree.find_outer name names (by simp [held])) with reached | tooLong
    · rw [reached, ok_bind] at refused
      cases short : isTooLong name with
      | true =>
        obtain rfl : .nameTooLong = refusal := by simpa [short] using refused
        cases missing
      | false =>
        cases entry with
        | folder =>
          obtain rfl : .isFolder = refusal := by simpa [short, held] using refused
          cases missing
        | file content => simp [short, held] at refused
    · rw [tooLong] at refused
      cases refused
      cases missing

end Tree

/-- A path that cannot be followed is not missing for that, unless it is empty. -/
theorem Path.kind_of_unfollowed {path : Path} {refusal : IoError} (named : path.text ≠ "")
    (refused : path.route = .error refusal) : refusal.kind ≠ .notFound := by
  simp only [Path.route, named, if_false] at refused
  split at refused
  · cases refused
    decide
  split at refused
  · cases refused
    decide
  · cases refused

namespace State

/-- The same disk with other calls that are made to fail. -/
def withFaults (disk : State) (faults : Call → Path → Option IoError) : State := ⟨disk.tree, faults⟩

theorem readText_eq_ok_iff {disk : State} {path : Path} {text : String} :
    disk.readText path = .ok text ↔
      disk.faults .readText path = none ∧
        ∃ route, path.route = .ok route ∧ disk.tree.read route = .ok text := by
  rw [readText]
  cases disk.faults .readText path with
  | some refusal => simp
  | none => cases path.route <;> simp

/-- Writing either does nothing or writes into the tree. -/
theorem writeText_cases (disk : State) (path : Path) (text : String) :
    (∃ refusal, disk.writeText path text = (.error refusal, disk)) ∨
      ∃ route after, disk.faults .writeText path = none ∧ path.route = .ok route ∧
        disk.tree.write route (.text text) = .ok after ∧
        disk.writeText path text = (.ok (), disk.withTree after) := by
  rw [writeText]
  cases disk.faults .writeText path with
  | some refusal => simp
  | none =>
    cases path.route with
    | error refusal => simp [settle]
    | ok route => cases written : disk.tree.write route (.text text) <;> simp [settle, written]

/-- Writing behind a file either does nothing or changes the tree. -/
theorem append_cases (disk : State) (path : Path) (text : String) :
    (disk.append path text).2 = disk ∨
      ∃ route after, path.route = .ok route ∧ disk.tree.append route text = .ok after ∧
        (disk.append path text).2 = disk.withTree after := by
  rw [append]
  cases disk.faults .append path with
  | some refusal => exact Or.inl rfl
  | none =>
    cases path.route with
    | error refusal => exact Or.inl rfl
    | ok route => cases appended : disk.tree.append route text <;> simp [settle, appended]

/-- Removing either does nothing, for a reason that may be the tree's, or takes a file away. -/
theorem removeFile_cases (disk : State) (path : Path) :
    (∃ refusal, disk.removeFile path = (.error refusal, disk) ∧
        (disk.faults .removeFile path = some refusal ∨ path.route = .error refusal ∨
          ∃ route, path.route = .ok route ∧ disk.tree.removeFile route = .error refusal)) ∨
      ∃ route after, path.route = .ok route ∧ disk.tree.removeFile route = .ok after ∧
        disk.removeFile path = (.ok (), disk.withTree after) := by
  rw [removeFile]
  cases disk.faults .removeFile path with
  | some refusal => simp
  | none =>
    cases path.route with
    | error refusal => simp [settle]
    | ok route => cases removed : disk.tree.removeFile route <;> simp [settle, removed]

end State

end ComponentInstall.Disk
