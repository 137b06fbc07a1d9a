import ComponentInstall.Proofs.Disk.Growth

/-!
# When folders can be made

A way is passable in a tree if none of its names is too long and no file lies where its first moves
lead. All that can be in the way of such moves is that something is missing, and then the folder
around it is turned to, so the recursion ends in success. What it adds on its way out is no file, so
the way stays passable.
-/

namespace ComponentInstall.Disk.Tree

/-- Nothing stands against making the folders along some moves. -/
structure Passable (tree : Tree) (moves : List Move) : Prop where
  short : Short moves
  clear : ∀ outer content, outer <:+ moves → tree.find (destination outer) ≠ some (.file content)

namespace Passable

theorem of_suffix {tree : Tree} {moves outer : List Move} (passable : Passable tree moves)
    (first : outer <:+ moves) : Passable tree outer where
  short := passable.short.of_suffix first
  clear inner content within := passable.clear inner content (within.trans first)

end Passable

/-- Nothing stands against making folders on the empty tree but names that are too long. -/
theorem passable_empty {moves : List Move} (short : Short moves) : empty.Passable moves where
  short := short
  clear outer content first found := by
    cases place : destination outer with
    | nil => simp [place] at found
    | cons name around =>
      rw [place] at found
      cases found

/-- Whether moves are passable is a matter of the files. -/
theorem passable_iff_of_gains {before after : Tree} {moves : List Move}
    (gains : GainsFolders before after) : after.Passable moves ↔ before.Passable moves := by
  constructor
  · intro passable
    refine ⟨passable.short, ?_⟩
    intro inner content within found
    exact passable.clear inner content within (gains.file_iff.mpr found)
  · intro passable
    refine ⟨passable.short, ?_⟩
    intro inner content within found
    exact passable.clear inner content within (gains.file_iff.mp found)

/-- Passable moves can be followed unless something is missing. -/
theorem reach_of_passable {tree : Tree} {moves : List Move} (passable : Passable tree moves) :
    (∃ place, tree.reach moves = .ok place) ∨ tree.reach moves = .error .missing := by
  induction moves with
  | nil => exact Or.inl ⟨[], rfl⟩
  | cons move outer inductionHypothesis =>
    rcases inductionHypothesis (passable.of_suffix (List.suffix_cons move outer)) with
      ⟨around, reached⟩ | missing
    · obtain rfl : around = destination outer := eq_destination_of_reach reached
      rw [reach, reached]
      cases move with
      | up => exact Or.inl ⟨(destination outer).tail, rfl⟩
      | into name =>
        have short : isTooLong name = false := passable.short name List.mem_cons_self
        simp only [ok_bind, step, short, Bool.false_eq_true, if_false]
        cases held : tree.find (name :: destination outer) with
        | none => exact Or.inr rfl
        | some entry =>
          cases entry with
          | folder => exact Or.inl ⟨name :: destination outer, rfl⟩
          | file content => exact absurd held (passable.clear _ content (List.suffix_refl _))
    · right
      rw [reach, missing]
      rfl

/-- From a folder that is there, the attempt to make the next one on a passable way succeeds. -/
theorem attempt_of_passable {tree : Tree} {outer : List Move} {move : Move} {around : Place}
    (passable : Passable tree (move :: outer)) (reached : tree.reach outer = .ok around) :
    (tree.attempt outer move).1 = .ok () := by
  rw [attempt]
  cases made : tree.makeFolder outer move with
  | ok after => rfl
  | error refusal =>
    have leads : tree.leadsToFolder (move :: outer) = true := by
      apply leadsToFolder_iff.mpr
      rcases reach_of_passable passable with leads | missing
      · exact leads
      · rw [reach, reached] at missing
        cases move with
        | up => cases missing
        | into name =>
          have short : isTooLong name = false := passable.short name List.mem_cons_self
          have absent : tree.find (name :: around) = none := by
            simp only [ok_bind, step, short, Bool.false_eq_true, if_false] at missing
            cases held : tree.find (name :: around) with
            | none => rfl
            | some entry => cases entry <;> simp [held] at missing
          have makes := makeFolder_eq_ok_iff.mpr ⟨around, name, reached, rfl, short, absent, rfl⟩
          rw [made] at makes
          cases makes
    simp [leads]

/-- Making folders succeeds along passable moves. -/
theorem makeFolders_of_passable {tree : Tree} {moves : List Move} (passable : Passable tree moves) :
    (tree.makeFolders moves).1 = .ok () := by
  induction moves with
  | nil => rfl
  | cons move outer inductionHypothesis =>
    have passableOuter : Passable tree outer := passable.of_suffix (List.suffix_cons move outer)
    have madeOuter := inductionHypothesis passableOuter
    obtain ⟨grown, leads⟩ := tree.makeFolders_grows outer
    rcases tree.makeFolders_cons outer move with
      ⟨found, same⟩ | ⟨-, ⟨refusal, around, stopped, -⟩ | ⟨around, done, same⟩⟩
    · rw [same]
      rcases reach_of_passable passableOuter with ⟨place, reached⟩ | missing
      · exact attempt_of_passable passable reached
      · have lacks : tree.Lacks outer move :=
          ⟨.missing, by rw [makeFolder, missing]; rfl, rfl⟩
        exact absurd lacks found
    · rw [stopped] at madeOuter
      cases madeOuter
    · rw [done] at grown leads
      obtain ⟨place, reached⟩ := leads rfl
      rw [same]
      exact attempt_of_passable ((passable_iff_of_gains grown.gains).mpr passable) reached

/-- Moves go no further than where their first moves are refused. -/
theorem reach_of_refused {tree : Tree} {moves outer : List Move} {refusal : IoError}
    (refused : tree.reach outer = .error refusal) (first : outer <:+ moves) :
    tree.reach moves = .error refusal := by
  induction moves with
  | nil =>
    obtain rfl : outer = [] := List.suffix_nil.mp first
    exact refused
  | cons move rest inductionHypothesis =>
    rcases List.suffix_cons_iff.mp first with rfl | within
    · exact refused
    · rw [reach, inductionHypothesis within]
      rfl

/-- Folders are made as far as the moves are passable, even where the rest is refused. -/
theorem reach_makeFolders_of_passable {tree : Tree} {moves outer : List Move}
    (passable : Passable tree outer) (first : outer <:+ moves) :
    ∃ place, (tree.makeFolders moves).2.reach outer = .ok place := by
  induction moves with
  | nil =>
    obtain rfl : outer = [] := List.suffix_nil.mp first
    exact ⟨[], rfl⟩
  | cons move rest inductionHypothesis =>
    rcases List.suffix_cons_iff.mp first with rfl | within
    · exact (tree.makeFolders_grows (move :: rest)).2 (makeFolders_of_passable passable)
    · obtain ⟨place, reached⟩ := inductionHypothesis within
      rcases tree.makeFolders_cons rest move with
        ⟨found, same⟩ | ⟨-, ⟨refusal, around, stopped, same⟩ | ⟨around, done, same⟩⟩
      · rw [same]
        rcases reach_of_passable passable with ⟨there, reachedBefore⟩ | missing
        · exact ⟨there, reach_of_kept (tree.attempt_grows rest move).1.kept reachedBefore⟩
        · have lacks : tree.Lacks rest move :=
            ⟨.missing, by rw [makeFolder, reach_of_refused missing within]; rfl, rfl⟩
          exact absurd lacks found
      · rw [stopped] at reached
        rw [same]
        exact ⟨place, reached⟩
      · rw [done] at reached
        rw [same]
        exact ⟨place, reach_of_kept (around.attempt_grows rest move).1.kept reached⟩

/-- A call on a way makes its folders as far as they are passable. -/
theorem reach_makeWay_of_passable {tree : Tree} {route : Route} {outer : List Move}
    (passable : Passable tree outer) (first : outer <:+ route.making) :
    ∃ place, (tree.makeWay route).2.reach outer = .ok place := by
  obtain ⟨moves, ending⟩ := route
  cases ending with
  | entry name closed => exact reach_makeFolders_of_passable passable first
  | folder =>
    have made := reach_makeFolders_of_passable passable first
    have whole : outer <:+ moves := first.trans (List.tail_suffix moves)
    simp only [Route.making, makeWay] at made ⊢
    cases reached : tree.reach moves with
    | ok place => exact ⟨_, reach_of_suffix reached whole⟩
    | error refusal =>
      by_cases missing : refusal.kind = .notFound
      · simp only [missing, if_true]
        generalize tree.makeFolders moves.tail = result at made
        obtain ⟨answer, around⟩ := result
        cases answer with
        | error refusal => exact made
        | ok done =>
          simp only at made ⊢
          cases around.reach moves <;> exact made
      · simp only [missing, if_false]
        rcases reach_of_passable passable with there | absent
        · exact there
        · rw [reach_of_refused absent whole] at reached
          cases reached
          exact absurd rfl missing

/-- A call on a passable way succeeds if there is a folder at its destination already. Without one it can
fail, because the folder at the end of a way that has dots at its end is not made. -/
theorem makeWay_of_passable {tree : Tree} {route : Route} (passable : Passable tree route.way)
    (folder : tree.find (destination route.way) = some .folder) :
    (tree.makeWay route).1 = .ok () := by
  obtain ⟨outer, ending⟩ := route
  cases ending with
  | entry name closed => exact makeFolders_of_passable passable
  | folder =>
    simp only [makeWay, Route.way] at passable folder ⊢
    rcases reach_of_passable passable with ⟨place, reached⟩ | missing
    · simp [reached]
    · cases outer with
      | nil => cases missing
      | cons move rest =>
        have passableRest := passable.of_suffix (List.suffix_cons move rest)
        obtain ⟨grown, leads⟩ := tree.makeFolders_grows rest
        have made := makeFolders_of_passable passableRest
        obtain ⟨place, around⟩ := leads made
        obtain rfl := eq_destination_of_reach around
        have reached : (tree.makeFolders rest).2.reach (move :: rest)
            = .ok (destination (move :: rest)) := by
          refine reach_cons_eq_ok_iff.mpr ⟨_, around, ?_⟩
          cases move with
          | up => rfl
          | into name =>
            exact step_into_eq_ok_iff.mpr
              ⟨passable.short name List.mem_cons_self, grown.kept _ _ folder, rfl⟩
        have kind : IoError.missing.kind = .notFound := rfl
        simp only [missing, kind, if_true, List.tail_cons]
        generalize tree.makeFolders rest = result at made reached ⊢
        obtain ⟨answer, after⟩ := result
        simp only at made reached
        simp only [made, reached]

end ComponentInstall.Disk.Tree
