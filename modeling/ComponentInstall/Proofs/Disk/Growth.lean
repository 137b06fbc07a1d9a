import ComponentInstall.Disk.State
import ComponentInstall.Proofs.Disk.Reach

/-!
# What making folders does to a tree

Making folders never takes anything away and never makes a file, so the files stay the same. It tries
the innermost folder first and turns outwards when something is missing, so it may stop half way; but
whatever it has made by then is a folder that the first moves of the way lead to. `Grows` says this of a
tree before and after. It holds of one attempt, goes on from one attempt to the next, and so holds of the
whole recursion, of following a way and of the call on a path, whether they succeed or not.

When the recursion succeeds the whole way can be followed. It does succeed if no name on the way is
too long and no file lies where the way leads.
-/

namespace ComponentInstall.Disk

namespace Tree

/-- A tree with more folders that is the same otherwise. -/
structure GainsFolders (before after : Tree) : Prop where
  kept : ∀ place entry, before.find place = some entry → after.find place = some entry
  made : ∀ place entry, before.find place = none → after.find place = some entry → entry = .folder

/-- The files are the same. -/
theorem GainsFolders.file_iff {before after : Tree} (gains : GainsFolders before after)
    {place : Place} {content : Content} :
    after.find place = some (.file content) ↔ before.find place = some (.file content) := by
  constructor
  · intro found
    cases held : before.find place with
    | none => cases gains.made place (.file content) held found
    | some entry => rw [← found, gains.kept place entry held]
  · exact gains.kept place (.file content)

/-- A tree after some folders were made along a way. -/
structure Grows (moves : List Move) (before after : Tree) : Prop where
  /-- Nothing is removed or replaced. -/
  kept : ∀ place entry, before.find place = some entry → after.find place = some entry
  /-- What is new is a folder, and the first moves of the way lead to it. -/
  made : ∀ place entry, before.find place = none → after.find place = some entry →
    entry = .folder ∧ ∃ outer, outer <:+ moves ∧ after.reach outer = .ok place

namespace Grows

theorem gains {moves : List Move} {before after : Tree} (grown : Grows moves before after) :
    GainsFolders before after where
  kept := grown.kept
  made place entry missing found := (grown.made place entry missing found).1

theorem refl (moves : List Move) (tree : Tree) : Grows moves tree tree where
  kept _ _ found := found
  made _ _ missing found := by simp [missing] at found

theorem trans {moves : List Move} {before between after : Tree} (first : Grows moves before between)
    (second : Grows moves between after) : Grows moves before after where
  kept place entry found := second.kept place entry (first.kept place entry found)
  made place entry missing found := by
    cases held : between.find place with
    | none => exact second.made place entry held found
    | some earlier =>
      obtain ⟨folder, outer, within, reached⟩ := first.made place earlier missing held
      have same : earlier = entry :=
        Option.some.inj ((second.kept place earlier held).symm.trans found)
      exact ⟨same ▸ folder, outer, within, reach_of_kept second.kept reached⟩

/-- Folders along the beginning of a way are folders along the way. -/
theorem widen {moves outer : List Move} {before after : Tree} (grown : Grows outer before after)
    (first : outer <:+ moves) : Grows moves before after where
  kept := grown.kept
  made place entry missing found := by
    obtain ⟨folder, inner, within, reached⟩ := grown.made place entry missing found
    exact ⟨folder, inner, within.trans first, reached⟩

/-- What is new lies where the first moves of the way lead. -/
theorem new_place {moves : List Move} {before after : Tree} (grown : Grows moves before after)
    {place : Place} (missing : before.find place = none) (found : after.find place ≠ none) :
    ∃ outer, outer <:+ moves ∧ place = destination outer := by
  obtain ⟨entry, held⟩ := Option.ne_none_iff_exists'.mp found
  obtain ⟨-, outer, within, reached⟩ := grown.made place entry missing held
  exact ⟨outer, within, eq_destination_of_reach reached⟩

end Grows

/-- One attempt succeeds if the last move leads to a free name of a folder. -/
theorem makeFolder_eq_ok_iff {tree made : Tree} {outer : List Move} {move : Move} :
    tree.makeFolder outer move = .ok made ↔
      ∃ place name, tree.reach outer = .ok place ∧ move = .into name ∧ isTooLong name = false ∧
        tree.find (name :: place) = none ∧ made = tree.add name place .folder := by
  rw [makeFolder]
  cases tree.reach outer with
  | error refusal => simp
  | ok place =>
    cases move with
    | up => simp
    | into name =>
      cases short : isTooLong name with
      | true => simp [short]
      | false =>
        cases held : tree.find (name :: place) with
        | none =>
          simp only [ok_bind, short, held, pure_eq_ok, Except.ok.injEq,
            Move.into.injEq, Bool.false_eq_true, if_false]
          constructor
          · rintro rfl
            exact ⟨place, name, rfl, rfl, short, held, rfl⟩
          · rintro ⟨_, _, rfl, rfl, -, -, rfl⟩
            rfl
        | some entry =>
          simp [short, held]

theorem leadsToFolder_iff {tree : Tree} {moves : List Move} :
    tree.leadsToFolder moves = true ↔ ∃ place, tree.reach moves = .ok place := by
  rw [leadsToFolder]
  cases tree.reach moves <;> simp [Except.isOk, Except.toBool]

/-- One attempt that succeeds makes the folder that the moves then lead to. -/
theorem makeFolder_grows {tree made : Tree} {outer : List Move} {move : Move}
    (attempt : tree.makeFolder outer move = .ok made) :
    Grows (move :: outer) tree made ∧ ∃ place, made.reach (move :: outer) = .ok place := by
  obtain ⟨place, name, reached, rfl, short, missing, rfl⟩ := makeFolder_eq_ok_iff.mp attempt
  have found (other : Place) : (tree.add name place .folder).find other =
      if other = name :: place then some .folder else tree.find other :=
    tree.find_add name place other .folder (find_of_reach reached) (by simp [missing])
  have kept (other : Place) (entry : Entry) (held : tree.find other = some entry) :
      (tree.add name place .folder).find other = some entry := by
    have differs : other ≠ name :: place := by
      rintro rfl
      simp [missing] at held
    rw [found, if_neg differs, held]
  have reachedNow : (tree.add name place .folder).reach (.into name :: outer)
      = .ok (name :: place) :=
    reach_cons_eq_ok_iff.mpr ⟨place, reach_of_kept kept reached,
      step_into_eq_ok_iff.mpr ⟨short, by rw [found, if_pos rfl], rfl⟩⟩
  refine ⟨⟨kept, ?_⟩, name :: place, reachedNow⟩
  intro other entry absent held
  rw [found] at held
  split at held
  · rename_i same
    subst same
    exact ⟨(Option.some.inj held).symm, _, List.suffix_refl _, reachedNow⟩
  · simp [absent] at held

/-- One attempt, which also succeeds if the moves lead to a folder that is there. -/
def attempt (tree : Tree) (outer : List Move) (move : Move) : Except IoError Unit × Tree :=
  match tree.makeFolder outer move with
  | .ok made => (.ok (), made)
  | .error refusal =>
    if tree.leadsToFolder (move :: outer) then (.ok (), tree) else (.error refusal, tree)

/-- Something on the way to a folder is missing. -/
def Lacks (tree : Tree) (outer : List Move) (move : Move) : Prop :=
  ∃ refusal, tree.makeFolder outer move = .error refusal ∧ refusal.kind = .notFound

/-- The recursion attempts the innermost folder, before or after the folders around it are made. -/
theorem makeFolders_cons (tree : Tree) (outer : List Move) (move : Move) :
    (¬ tree.Lacks outer move ∧ tree.makeFolders (move :: outer) = tree.attempt outer move) ∨
      (tree.Lacks outer move ∧
        ((∃ refusal around, tree.makeFolders outer = (.error refusal, around) ∧
            tree.makeFolders (move :: outer) = (.error refusal, around)) ∨
          ∃ around, tree.makeFolders outer = (.ok (), around) ∧
            tree.makeFolders (move :: outer) = around.attempt outer move)) := by
  rw [makeFolders, Lacks, attempt]
  cases tree.makeFolder outer move with
  | ok made => simp
  | error refusal =>
    by_cases missing : refusal.kind = .notFound
    · right
      simp only [missing, if_true, Except.error.injEq, exists_eq_left', true_and]
      obtain ⟨answer, around⟩ := tree.makeFolders outer
      cases answer with
      | error refusal => exact .inl ⟨refusal, around, rfl, rfl⟩
      | ok done => exact .inr ⟨around, rfl, rfl⟩
    · simp [missing]

theorem attempt_grows (tree : Tree) (outer : List Move) (move : Move) :
    Grows (move :: outer) tree (tree.attempt outer move).2 ∧
      ((tree.attempt outer move).1 = .ok () →
        ∃ place, (tree.attempt outer move).2.reach (move :: outer) = .ok place) := by
  rw [attempt]
  cases made : tree.makeFolder outer move with
  | ok around =>
    obtain ⟨grown, reached⟩ := makeFolder_grows made
    exact ⟨grown, fun _ => reached⟩
  | error refusal =>
    by_cases leads : tree.leadsToFolder (move :: outer) = true
    · simp only [leads, if_true]
      exact ⟨.refl (move :: outer) tree, fun _ => leadsToFolder_iff.mp leads⟩
    · simp only [leads]
      exact ⟨.refl (move :: outer) tree, by simp⟩

/-- The recursion only adds folders along the way, and when it succeeds the way can be followed. -/
theorem makeFolders_grows (tree : Tree) (moves : List Move) :
    Grows moves tree (tree.makeFolders moves).2 ∧
      ((tree.makeFolders moves).1 = .ok () →
        ∃ place, (tree.makeFolders moves).2.reach moves = .ok place) := by
  induction moves with
  | nil => exact ⟨.refl [] tree, fun _ => ⟨[], rfl⟩⟩
  | cons move outer inductionHypothesis =>
    obtain ⟨grownOuter, -⟩ := inductionHypothesis
    rcases tree.makeFolders_cons outer move with
      ⟨-, same⟩ | ⟨-, ⟨refusal, around, stopped, same⟩ | ⟨around, done, same⟩⟩
    · rw [same]
      exact tree.attempt_grows outer move
    · rw [stopped] at grownOuter
      rw [same]
      exact ⟨grownOuter.widen (List.suffix_cons move outer), by simp⟩
    · rw [done] at grownOuter
      rw [same]
      obtain ⟨last, reached⟩ := around.attempt_grows outer move
      exact ⟨(grownOuter.widen (List.suffix_cons move outer)).trans last, reached⟩

/-- Making a way adds folders only along its moves, without the last one of a way that ends at a
folder by itself. -/
theorem makeWay_grows (tree : Tree) (route : Route) :
    Grows route.making tree (tree.makeWay route).2 := by
  obtain ⟨outer, ending⟩ := route
  cases ending with
  | entry name closed => exact (tree.makeFolders_grows (.into name :: outer)).1
  | folder =>
    have grown : Grows outer.tail tree (tree.makeFolders outer.tail).2 :=
      (tree.makeFolders_grows outer.tail).1
    simp only [makeWay, Route.making]
    cases tree.reach outer with
    | ok place => exact .refl outer.tail tree
    | error refusal =>
      by_cases missing : refusal.kind = .notFound
      · simp only [missing, if_true]
        generalize tree.makeFolders outer.tail = result at grown
        obtain ⟨answer, around⟩ := result
        cases answer with
        | error refusal => exact grown
        | ok done =>
          simp only at grown ⊢
          cases around.reach outer <;> exact grown
      · simp only [missing, if_false]
        exact .refl outer.tail tree

end Tree

namespace State

/-- The call does nothing on a path that cannot be followed. -/
theorem createFolders_of_unfollowed (disk : State) {path : Path} {refusal : IoError}
    (refused : path.route = .error refusal) : (disk.createFolders path).2 = disk := by
  rw [createFolders]
  cases disk.faults .createFolders path with
  | some refusal => rfl
  | none =>
    by_cases empty : path.text = ""
    · simp [empty]
    · simp [empty, refused]

/-- The call on a path changes nothing but the tree, which gains folders along the path. -/
theorem createFolders_grows (disk : State) (path : Path) :
    (disk.createFolders path).2 = disk.withTree (disk.createFolders path).2.tree ∧
      Tree.Grows path.making disk.tree (disk.createFolders path).2.tree := by
  have unchanged : disk = disk.withTree disk.tree := rfl
  rw [createFolders]
  cases disk.faults .createFolders path with
  | some refusal => exact ⟨unchanged, .refl path.making disk.tree⟩
  | none =>
    by_cases empty : path.text = ""
    · simp only [empty, if_true]
      exact ⟨unchanged, .refl path.making disk.tree⟩
    · simp only [empty, if_false]
      cases followed : path.route with
      | error refusal => exact ⟨unchanged, .refl path.making disk.tree⟩
      | ok route =>
        refine ⟨rfl, ?_⟩
        rw [← Path.making_of_route followed]
        exact disk.tree.makeWay_grows route

end State

end ComponentInstall.Disk
