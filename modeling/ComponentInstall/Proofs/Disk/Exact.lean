import ComponentInstall.Proofs.Disk.Passage
import ComponentInstall.Proofs.Disk.Repeat

/-!
# Exactly what making folders does

The effect of making folders is known exactly, whether it succeeds or stops half way: the new places
are those of the first moves that were passable before. `Adds` gives the content of a tree from the one
before and the places where folders were added. Where a file lies or a name is too long is not changed by
folders that others make, so every call adds what it would add alone, and what calls add is united.

For a path of names the answer is known exactly too. It is the refusal of the outermost obstacle, which
is a name that is too long or one that a file has. A file at the very end of the path is in the way of
its own folder, any other one is in the way of what should lie in it, and the two refusals differ. With
two dots in a path the answer can depend on which folders are there, because a file may come to light
behind a folder that is missing at first.
-/

namespace ComponentInstall.Disk

namespace Tree

variable {tree before after : Tree} {moves outer : List Move} {names place : Place} {entry : Entry}

/-- What can be followed after folders were made was passable before. -/
theorem passable_of_reach (gains : GainsFolders before after)
    (reached : after.reach moves = .ok place) : before.Passable moves := by
  refine ⟨short_of_reach reached, ?_⟩
  intro inner content within found
  have folder := find_of_reach (reach_of_suffix reached within)
  cases folder.symm.trans (gains.kept _ _ found)

/-- A tree after folders were added at some places. -/
def Adds (added : Place → Prop) (before after : Tree) : Prop :=
  ∀ place entry, after.find place = some entry ↔
    before.find place = some entry ∨ entry = .folder ∧ added place

namespace Adds

variable {added more : Place → Prop} {between : Tree}

theorem gains (adds : Adds added before after) : GainsFolders before after where
  kept place entry held := (adds place entry).mpr (Or.inl held)
  made place entry missing found := by
    rcases (adds place entry).mp found with held | ⟨folder, -⟩
    · cases missing.symm.trans held
    · exact folder

/-- Nothing is added to a tree that stays as it is. -/
theorem nowhere (tree : Tree) : Adds (fun _ => False) tree tree := by
  intro place entry
  simp

/-- What is added one after the other adds up. -/
theorem followed_by (first : Adds added before between) (second : Adds more between after) :
    Adds (fun place => added place ∨ more place) before after := by
  intro place entry
  rw [second, first, or_assoc, ← and_or_left]

/-- Other places have no entry that is new. -/
theorem find_eq_none_iff (adds : Adds added before after) (elsewhere : ¬ added place) :
    after.find place = none ↔ before.find place = none := by
  simp only [Option.eq_none_iff_forall_ne_some, ne_eq, adds place, elsewhere, and_false, or_false]

/-- A tree that has the same folders added is the same. -/
theorem find_eq (first : Adds added before between) (second : Adds more before after)
    (same : ∀ place, added place ↔ more place) (place : Place) :
    between.find place = after.find place := by
  apply Option.ext
  intro entry
  rw [first, second, same]

end Adds

/-- The places of the first moves that are passable. -/
def passed (tree : Tree) (moves : List Move) (place : Place) : Prop :=
  ∃ outer, outer <:+ moves ∧ destination outer = place ∧ tree.Passable outer

/-- A tree that grew along some moves, as far as they are passable, had the folders of those added. -/
theorem adds_of_grows (grown : Grows moves before after)
    (reaches : ∀ outer, outer <:+ moves → before.Passable outer →
      ∃ place, after.reach outer = .ok place) : Adds (before.passed moves) before after := by
  intro place entry
  constructor
  · intro found
    cases held : before.find place with
    | some earlier =>
      left
      rw [← found, grown.kept place earlier held]
    | none =>
      obtain ⟨folder, outer, within, reached⟩ := grown.made place entry held found
      exact Or.inr ⟨folder, outer, within, (eq_destination_of_reach reached).symm,
        passable_of_reach grown.gains reached⟩
  · rintro (held | ⟨rfl, outer, within, rfl, passable⟩)
    · exact grown.kept place entry held
    · obtain ⟨reachedPlace, reached⟩ := reaches outer within passable
      rw [← eq_destination_of_reach reached]
      exact find_of_reach reached

/-- Making a way adds the folders of all its first moves that are passable. -/
theorem adds_makeWay (tree : Tree) (route : Route) :
    Adds (tree.passed route.making) tree (tree.makeWay route).2 :=
  adds_of_grows (tree.makeWay_grows route) fun _ within passable =>
    reach_makeWay_of_passable passable within

theorem adds_makeFolders (tree : Tree) (moves : List Move) :
    Adds (tree.passed moves) tree (tree.makeFolders moves).2 :=
  adds_of_grows (tree.makeFolders_grows moves).1 fun _ within passable =>
    reach_makeFolders_of_passable passable within

/-- Whether a place has a file. -/
def holdsFile (tree : Tree) (place : Place) : Bool :=
  match tree.find place with
  | some (.file _) => true
  | _ => false

theorem GainsFolders.holdsFile (gains : GainsFolders before after) :
    after.holdsFile = before.holdsFile := by
  funext place
  rw [Tree.holdsFile, Tree.holdsFile]
  cases held : before.find place with
  | some entry => rw [gains.kept place entry held]
  | none =>
    cases found : after.find place with
    | none => rfl
    | some entry => rw [gains.made place entry held found]

/-- The refusal of a name in a folder, if it is too long or a file has it. -/
def barrier (files : Place → Bool) (occupied : IoError) (name : String) (outer : Place) :
    Option IoError :=
  if isTooLong name then some .nameTooLong
  else if files (name :: outer) then some occupied
  else none

/-- The refusal of following some names, unless it is only that something is missing. -/
def obstacle (files : Place → Bool) : Place → Option IoError
  | [] => none
  | name :: outer => (obstacle files outer).or (barrier files .notFolder name outer)

/-- The refusal of making the folders of some names. -/
def hindrance (files : Place → Bool) : Place → Option IoError
  | [] => none
  | name :: outer => (obstacle files outer).or (barrier files .present name outer)

/-- An answer that is a refusal if there is one. -/
def answerOf : Option IoError → Except IoError Unit
  | none => .ok ()
  | some refusal => .error refusal

theorem answerOf_injective {left right : Option IoError} (same : answerOf left = answerOf right) :
    left = right := by
  cases left <;> cases right <;> simp_all [answerOf]

/-- Names without a file at their end hinder as they obstruct. -/
theorem hindrance_of_free {files : Place → Bool} (free : files names = false) :
    hindrance files names = obstacle files names := by
  cases names with
  | nil => rfl
  | cons name outer => simp [hindrance, obstacle, barrier, free]

/-- Names can be followed, or they are refused because something is missing or because of an
obstacle. -/
theorem reach_names_cases (tree : Tree) (names : Place) :
    (tree.reach (names.map .into) = .ok names ∧ obstacle tree.holdsFile names = none) ∨
      (tree.reach (names.map .into) = .error .missing ∧ tree.find names = none) ∨
        ∃ refusal, tree.reach (names.map .into) = .error refusal ∧
          obstacle tree.holdsFile names = some refusal ∧ refusal.kind ≠ .notFound := by
  induction names with
  | nil => exact Or.inl ⟨rfl, rfl⟩
  | cons name outer inductionHypothesis =>
    rw [List.map_cons, reach]
    rcases inductionHypothesis with ⟨reached, unobstructed⟩ | ⟨missing, absent⟩ |
        ⟨refusal, refused, obstructed, found⟩
    · rw [reached, ok_bind, step, obstacle, unobstructed, Option.none_or, barrier, holdsFile]
      cases isTooLong name with
      | true => exact Or.inr (Or.inr ⟨.nameTooLong, rfl, rfl, by decide⟩)
      | false =>
        cases held : tree.find (name :: outer) with
        | none => exact Or.inr (Or.inl ⟨rfl, rfl⟩)
        | some entry =>
          cases entry with
          | folder => exact Or.inl ⟨rfl, rfl⟩
          | file content => exact Or.inr (Or.inr ⟨.notFolder, rfl, rfl, by decide⟩)
    · refine Or.inr (Or.inl ⟨by rw [missing, error_bind], ?_⟩)
      cases held : tree.find (name :: outer) with
      | none => rfl
      | some entry => cases absent.symm.trans (tree.find_outer name outer (by simp [held]))
    · refine Or.inr (Or.inr ⟨refusal, by rw [refused, error_bind], ?_, found⟩)
      rw [obstacle, obstructed, Option.some_or]

/-- In a folder that is there, nothing is missing for the next one. -/
theorem not_lacks_of_reach {move : Move} (reached : tree.reach outer = .ok place) :
    ¬ tree.Lacks outer move := by
  rintro ⟨refusal, refused, missing⟩
  rw [makeFolder, reached, ok_bind] at refused
  cases move with
  | up =>
    cases refused
    cases missing
  | into name =>
    cases short : isTooLong name with
    | true =>
      obtain rfl : .nameTooLong = refusal := by simpa [short] using refused
      cases missing
    | false =>
      cases held : tree.find (name :: place) with
      | none => simp [short, held] at refused
      | some entry =>
        obtain rfl : .present = refusal := by simpa [short, held] using refused
        cases missing

/-- An attempt in a folder that is there is refused by the name only. -/
theorem attempt_of_reach {name : String} (reached : tree.reach (names.map .into) = .ok names) :
    (tree.attempt (names.map .into) (.into name)).1 =
      answerOf (barrier tree.holdsFile .present name names) := by
  rw [attempt, barrier, holdsFile]
  cases short : isTooLong name with
  | true => simp [makeFolder, leadsToFolder, reach, step, reached, short, answerOf, Except.isOk,
      Except.toBool]
  | false =>
    cases held : tree.find (name :: names) with
    | none => simp [makeFolder, reached, short, held, answerOf]
    | some entry =>
      cases entry <;> simp [makeFolder, leadsToFolder, reach, step, reached, short, held, answerOf,
        Except.isOk, Except.toBool]

/-- Making the folders of some names is refused exactly by what hinders it. -/
theorem makeFolders_names (tree : Tree) (names : Place) :
    (tree.makeFolders (names.map .into)).1 = answerOf (hindrance tree.holdsFile names) := by
  induction names with
  | nil => rfl
  | cons name outer inductionHypothesis =>
    rw [List.map_cons]
    have outcomes := tree.makeFolders_cons (outer.map .into) (.into name)
    rcases tree.reach_names_cases outer with ⟨reached, unobstructed⟩ | ⟨missing, absent⟩ |
        ⟨refusal, refused, obstructed, found⟩
    · -- The folder around is there, so there is a single attempt.
      rcases outcomes with ⟨-, same⟩ | ⟨lacks, -⟩
      · rw [same, attempt_of_reach reached, hindrance, unobstructed, Option.none_or]
      · exact absurd lacks (not_lacks_of_reach reached)
    · -- The folders around are made first. No file is at their end, because nothing is.
      have free : tree.holdsFile outer = false := by rw [holdsFile, absent]
      have lacks : tree.Lacks (outer.map .into) (.into name) :=
        ⟨.missing, by rw [makeFolder, missing, error_bind], rfl⟩
      rw [hindrance, ← hindrance_of_free free]
      rcases outcomes with ⟨found, -⟩ | ⟨-, ⟨refusal, around, stopped, same⟩ | ⟨around, done, same⟩⟩
      · exact absurd lacks found
      · rw [stopped] at inductionHypothesis
        have refused : hindrance tree.holdsFile outer = some refusal :=
          answerOf_injective inductionHypothesis.symm
        rw [same, refused, Option.some_or]
        rfl
      · obtain ⟨grown, leads⟩ := tree.makeFolders_grows (outer.map .into)
        rw [done] at inductionHypothesis grown leads
        obtain ⟨place, reached⟩ := leads rfl
        obtain rfl : place = outer := by
          rw [eq_destination_of_reach reached, destination_map_into]
        have unobstructed : hindrance tree.holdsFile place = none :=
          answerOf_injective inductionHypothesis.symm
        rw [same, attempt_of_reach reached, grown.gains.holdsFile, unobstructed, Option.none_or]
    · -- What obstructs the folder around is in the way of this one too.
      rcases outcomes with ⟨-, same⟩ | ⟨⟨lack, refusedMaking, missing⟩, -⟩
      · rw [same, hindrance, obstructed, Option.some_or, attempt, makeFolder, leadsToFolder, reach,
          refused, error_bind]
        rfl
      · rw [makeFolder, refused, error_bind] at refusedMaking
        cases refusedMaking
        exact absurd missing found

end Tree

namespace State

variable {disk : State} {path : Path}

/-- The places where a call on a path adds folders. They are those of all first moves that are
passable, unless the call is refused or the path cannot be followed. -/
def makes (disk : State) (path : Path) (place : Place) : Prop :=
  disk.faults .createFolders path = none ∧ (∃ route, path.route = .ok route) ∧
    ∃ outer, outer <:+ path.making ∧ destination outer = place ∧ disk.tree.Passable outer

theorem adds_createFolders (disk : State) (path : Path) :
    Tree.Adds (disk.makes path) disk.tree (disk.createFolders path).2.tree := by
  intro place entry
  cases allowed : disk.faults .createFolders path with
  | some refusal => simp [createFolders, makes, allowed]
  | none =>
    cases followed : path.route with
    | error refusal => simp [disk.createFolders_of_unfollowed followed, makes, followed]
    | ok route =>
      rw [createFolders_of_route allowed followed, withTree, disk.tree.adds_makeWay route place,
        Path.making_of_route followed]
      simp [makes, Tree.passed, allowed, followed]

/-- Folders that are there already do not change where a call adds folders. -/
theorem makes_of_gains {tree : Tree} (gains : Tree.GainsFolders disk.tree tree) :
    (disk.withTree tree).makes path = disk.makes path := by
  funext place
  have passable (outer : List Move) : (disk.withTree tree).tree.Passable outer ↔
      disk.tree.Passable outer := Tree.passable_iff_of_gains gains
  simp only [makes, passable]
  rfl

/-- No folder is made deeper than the path leads. -/
theorem length_le_of_makes {place : Place} (made : disk.makes path place) :
    place.length ≤ path.way.length := by
  obtain ⟨-, -, outer, within, rfl, -⟩ := made
  have shorter := (within.trans path.making_suffix).length_le
  exact Nat.le_trans (length_destination_le outer) shorter

theorem find_createFolders_of_deeper (disk : State) {place : Place}
    (deeper : path.way.length < place.length) :
    (disk.createFolders path).2.tree.find place = none ↔ disk.tree.find place = none := by
  apply (disk.adds_createFolders path).find_eq_none_iff
  intro made
  exact absurd (length_le_of_makes made) (Nat.not_le.mpr deeper)

/-- A call on a path of names is answered alike where the files are the same. -/
theorem createFolders_of_gains {tree : Tree} {name : String} {outer : Place}
    (gains : Tree.GainsFolders disk.tree tree)
    (named : ∀ route, path.route = .ok route → route = ⟨outer.map .into, .entry name false⟩) :
    ((disk.withTree tree).createFolders path).1 = (disk.createFolders path).1 := by
  have sameFaults : (disk.withTree tree).faults .createFolders path
      = disk.faults .createFolders path := rfl
  cases allowed : disk.faults .createFolders path with
  | some refusal => simp [createFolders, sameFaults, allowed]
  | none =>
    cases followed : path.route with
    | error refusal =>
      by_cases empty : path.text = ""
      · simp [createFolders, sameFaults, allowed, empty]
      · simp [createFolders, sameFaults, allowed, empty, followed]
    | ok route =>
      obtain rfl := named route followed
      rw [createFolders_of_route allowed followed,
        createFolders_of_route (sameFaults.trans allowed) followed]
      have answer (tree : Tree) : (tree.makeWay ⟨outer.map .into, .entry name false⟩).1 =
          Tree.answerOf (Tree.hindrance tree.holdsFile (name :: outer)) :=
        tree.makeFolders_names (name :: outer)
      rw [answer, answer, ← gains.holdsFile]
      rfl

end State

end ComponentInstall.Disk
