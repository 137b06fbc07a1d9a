import ComponentInstall.Proofs.Disk.Way
import ComponentInstall.Proofs.Outcome

/-!
# Where moves lead

A tree has no links, so where moves lead can be told from the moves alone: a name leads one folder
down, two dots lead one up and stay at the root. That place is their `destination`. The tree only
decides whether the moves can be followed, and they can be followed exactly as long as folders are
there. A tree that keeps the folders of another one therefore lets the same moves lead to the same
places.

`LeadsTo` says that a path can be followed to a folder, which is the case when its way can.
-/

namespace ComponentInstall.Disk

/-- The place that moves lead to, last move first, wherever they can be followed. -/
def destination : List Move → Place
  | [] => []
  | .up :: outer => (destination outer).tail
  | .into name :: outer => name :: destination outer

/-- Names lead to the place that they are. -/
@[simp] theorem destination_map_into (names : Place) : destination (names.map .into) = names := by
  induction names with
  | nil => rfl
  | cons name outer inductionHypothesis =>
    exact congrArg (name :: ·) inductionHypothesis

theorem length_destination_le (moves : List Move) : (destination moves).length ≤ moves.length := by
  induction moves with
  | nil => exact Nat.le_refl 0
  | cons move outer inductionHypothesis =>
    cases move with
    | up =>
      have shorter : (destination outer).tail.length ≤ (destination outer).length :=
        (List.tail_suffix _).length_le
      exact Nat.le_succ_of_le (Nat.le_trans shorter inductionHypothesis)
    | into name => exact Nat.succ_le_succ inductionHypothesis

/-- Moves that are not refused for the length of a name. -/
def Short (moves : List Move) : Prop := ∀ name, .into name ∈ moves → isTooLong name = false

theorem Short.of_suffix {moves outer : List Move} (short : Short moves) (first : outer <:+ moves) :
    Short outer := fun name member => short name (first.subset member)

theorem Short.append {moves outer : List Move} (later : Short moves) (first : Short outer) :
    Short (moves ++ outer) := fun name member =>
  (List.mem_append.mp member).elim (later name) (first name)

/-- A place lies in one entry only of any folder around it. -/
theorem eq_of_inside {first second : String} {around place : Place}
    (inFirst : first :: around <:+ place) (inSecond : second :: around <:+ place) :
    first = second := by
  have same : first :: around = second :: around := by
    rcases List.suffix_or_suffix_of_suffix inFirst inSecond with shorter | shorter
    · exact shorter.eq_of_length rfl
    · exact (shorter.eq_of_length rfl).symm
  exact (List.cons.inj same).1

/-- The folders around a destination are destinations of first moves. -/
theorem exists_destination_of_suffix {moves : List Move} {place : Place}
    (around : place <:+ destination moves) :
    ∃ outer, outer <:+ moves ∧ destination outer = place := by
  induction moves with
  | nil => exact ⟨[], List.suffix_refl _, (List.suffix_nil.mp around).symm⟩
  | cons move outer inductionHypothesis =>
    cases move with
    | up =>
      obtain ⟨first, within, same⟩ :=
        inductionHypothesis (around.trans (List.tail_suffix (destination outer)))
      exact ⟨first, within.trans (List.suffix_cons _ _), same⟩
    | into name =>
      rcases List.suffix_cons_iff.mp around with whole | further
      · exact ⟨.into name :: outer, List.suffix_refl _, whole.symm⟩
      · obtain ⟨first, within, same⟩ := inductionHypothesis further
        exact ⟨first, within.trans (List.suffix_cons _ _), same⟩

namespace Tree

theorem reach_cons_eq_ok_iff {tree : Tree} {move : Move} {outer : List Move} {place : Place} :
    tree.reach (move :: outer) = .ok place ↔
      ∃ around, tree.reach outer = .ok around ∧ tree.step around move = .ok place := by
  rw [reach]
  cases tree.reach outer with
  | error refusal => simp
  | ok around => simp

theorem step_into_eq_ok_iff {tree : Tree} {around place : Place} {name : String} :
    tree.step around (.into name) = .ok place ↔
      isTooLong name = false ∧ tree.find (name :: around) = some .folder ∧ place = name :: around := by
  rw [step]
  cases isTooLong name with
  | true => simp
  | false =>
    simp only [Bool.false_eq_true, if_false]
    split
    · rename_i folder
      simp [folder, eq_comm]
    · rename_i content file
      simp [file]
    · rename_i missing
      simp [missing]

/-- Moves lead to a folder. -/
theorem find_of_reach {tree : Tree} {moves : List Move} {place : Place}
    (reached : tree.reach moves = .ok place) : tree.find place = some .folder := by
  induction moves generalizing place with
  | nil =>
    cases reached
    exact tree.find_root
  | cons move outer inductionHypothesis =>
    obtain ⟨around, reachedOuter, stepped⟩ := reach_cons_eq_ok_iff.mp reached
    have folder : tree.find around = some .folder := inductionHypothesis reachedOuter
    cases move with
    | up =>
      cases stepped
      cases around with
      | nil => exact folder
      | cons name rest => exact tree.find_outer name rest (by simp [folder])
    | into name =>
      obtain ⟨-, inner, rfl⟩ := step_into_eq_ok_iff.mp stepped
      exact inner

/-- Moves that can be followed lead to their destination. -/
theorem eq_destination_of_reach {tree : Tree} {moves : List Move} {place : Place}
    (reached : tree.reach moves = .ok place) : place = destination moves := by
  induction moves generalizing place with
  | nil =>
    cases reached
    rfl
  | cons move outer inductionHypothesis =>
    obtain ⟨around, reachedOuter, stepped⟩ := reach_cons_eq_ok_iff.mp reached
    obtain rfl : around = destination outer := inductionHypothesis reachedOuter
    cases move with
    | up =>
      cases stepped
      rfl
    | into name =>
      obtain ⟨-, -, rfl⟩ := step_into_eq_ok_iff.mp stepped
      rfl

/-- A tree that keeps the folders of another one lets the same moves be followed. -/
theorem reach_of_folders {before after : Tree} {moves : List Move} {place : Place}
    (folders : ∀ place, before.find place = some .folder → after.find place = some .folder)
    (reached : before.reach moves = .ok place) : after.reach moves = .ok place := by
  induction moves generalizing place with
  | nil => exact reached
  | cons move outer inductionHypothesis =>
    obtain ⟨around, reachedOuter, stepped⟩ := reach_cons_eq_ok_iff.mp reached
    refine reach_cons_eq_ok_iff.mpr ⟨around, inductionHypothesis reachedOuter, ?_⟩
    cases move with
    | up => exact stepped
    | into name =>
      obtain ⟨short, folder, same⟩ := step_into_eq_ok_iff.mp stepped
      exact step_into_eq_ok_iff.mpr ⟨short, folders _ folder, same⟩

theorem reach_of_kept {before after : Tree} {moves : List Move} {place : Place}
    (kept : ∀ place entry, before.find place = some entry → after.find place = some entry)
    (reached : before.reach moves = .ok place) : after.reach moves = .ok place :=
  reach_of_folders (fun place => kept place .folder) reached

/-- Moves that can be followed can be followed from their beginning. -/
theorem reach_of_suffix {tree : Tree} {moves outer : List Move} {place : Place}
    (reached : tree.reach moves = .ok place) (first : outer <:+ moves) :
    tree.reach outer = .ok (destination outer) := by
  induction moves generalizing place with
  | nil =>
    obtain rfl : outer = [] := List.suffix_nil.mp first
    rfl
  | cons move rest inductionHypothesis =>
    rcases List.suffix_cons_iff.mp first with rfl | within
    · rw [reached, eq_destination_of_reach reached]
    · obtain ⟨around, reachedOuter, -⟩ := reach_cons_eq_ok_iff.mp reached
      exact inductionHypothesis reachedOuter within

/-- No name is too long on a way that can be followed. -/
theorem short_of_reach {tree : Tree} {moves : List Move} {place : Place}
    (reached : tree.reach moves = .ok place) : Short moves := by
  intro name member
  induction moves generalizing place with
  | nil => cases member
  | cons move outer inductionHypothesis =>
    obtain ⟨around, reachedOuter, stepped⟩ := reach_cons_eq_ok_iff.mp reached
    rcases List.mem_cons.mp member with rfl | later
    · exact (step_into_eq_ok_iff.mp stepped).1
    · exact inductionHypothesis reachedOuter later

/-- A way ends at a folder exactly if all its moves can be followed. -/
theorem resolve_folder_iff {tree : Tree} {route : Route} {place : Place} :
    tree.resolve route = .ok (place, .folder) ↔ tree.reach route.way = .ok place := by
  obtain ⟨outer, ending⟩ := route
  cases ending with
  | folder =>
    simp only [resolve, Route.way]
    cases tree.reach outer <;> simp
  | entry name closed =>
    simp only [resolve, Route.way]
    rw [reach_cons_eq_ok_iff]
    cases tree.reach outer with
    | error refusal => simp
    | ok around =>
      simp only [ok_bind, Except.ok.injEq, exists_eq_left', step_into_eq_ok_iff]
      cases isTooLong name with
      | true => simp
      | false =>
        cases tree.find (name :: around) with
        | none => simp
        | some entry =>
          cases entry with
          | folder => simp [eq_comm]
          | file content =>
            cases closed <;> simp

/-- A way ends at a file exactly if its last name is that of a file, and no slash follows it. -/
theorem resolve_file_iff {tree : Tree} {route : Route} {place : Place} {content : Content} :
    tree.resolve route = .ok (place, .file content) ↔
      ∃ around name, tree.reach route.outer = .ok around ∧ route.ending = .entry name false ∧
        isTooLong name = false ∧ tree.find (name :: around) = some (.file content) ∧
        name :: around = place := by
  obtain ⟨outer, ending⟩ := route
  simp only [resolve]
  cases tree.reach outer with
  | error refusal => simp
  | ok around =>
    cases ending with
    | folder => simp
    | entry name closed =>
      cases short : isTooLong name with
      | true => simp [short]
      | false =>
        cases held : tree.find (name :: around) with
        | none => simp [short, held]
        | some entry =>
          cases entry with
          | folder => simp [short, held]
          | file content => cases closed <;> simp [short, held, and_comm]

/-- A path can be followed to a folder at a place. -/
def LeadsTo (tree : Tree) (path : Path) (place : Place) : Prop :=
  ∃ route, path.route = .ok route ∧ tree.resolve route = .ok (place, .folder)

theorem leadsTo_iff {tree : Tree} {path : Path} {route : Route} {place : Place}
    (followed : path.route = .ok route) :
    tree.LeadsTo path place ↔ tree.reach path.way = .ok place := by
  rw [LeadsTo, ← Path.way_of_route followed, ← resolve_folder_iff]
  constructor
  · rintro ⟨other, alsoFollowed, resolved⟩
    obtain rfl : route = other := Except.ok.inj (followed.symm.trans alsoFollowed)
    exact resolved
  · exact fun resolved => ⟨route, followed, resolved⟩

/-- A path that leads to a folder still does when the folders are kept. -/
theorem LeadsTo.keep {before after : Tree} {path : Path} {place : Place}
    (leads : before.LeadsTo path place)
    (folders : ∀ place, before.find place = some .folder → after.find place = some .folder) :
    after.LeadsTo path place := by
  obtain ⟨route, followed, resolved⟩ := leads
  exact ⟨route, followed, resolve_folder_iff.mpr
    (reach_of_folders folders (resolve_folder_iff.mp resolved))⟩

end Tree

end ComponentInstall.Disk
