import ComponentInstall.Proofs.Disk.Exact

/-!
# Making folders along names

A path that has nothing but names in it leads along them, from folder to folder, and its beginnings are
those of the names. So the effect of making its folders can be told without following it. If a beginning
is a file, the file is in the way and nothing is made. Otherwise all beginnings that are missing are
made, up to the first name that no entry can have. The call succeeds if neither a file nor such a name is
there, and else it is refused by what comes first.
-/

namespace ComponentInstall.Disk

open ComponentInstall.Text

namespace Path

/-- The names in a path, the innermost first. -/
def names (path : Path) : Place := (path.segments.reverse.filter (· ≠ [])).map String.ofList

/-- A path behind no root that has nothing but names in it and is neither too long nor has a NUL. -/
structure Plain (path : Path) : Prop where
  clean : '\x00' ∉ path.text.toList
  short : path.text.utf8ByteSize < lengthBound
  relative : ¬ path.Absolute
  named : ∀ piece ∈ path.segments, piece ≠ ['.'] ∧ piece ≠ ['.', '.']

variable {path : Path}

/-- A piece that is no dots leads into an entry, unless it is empty. -/
theorem moveOf_of_named {piece : List Char} (named : piece ≠ ['.'] ∧ piece ≠ ['.', '.']) :
    moveOf piece = if piece = [] then none else some (.into (String.ofList piece)) := by
  by_cases empty : piece = []
  · simp [moveOf, empty]
  · simp [moveOf, empty, named.1, named.2]

/-- A plain path leads along its names. -/
theorem way_of_plain (plain : path.Plain) : path.way = path.names.map .into := by
  have moves (pieces : List (List Char))
      (named : ∀ piece ∈ pieces, piece ≠ ['.'] ∧ piece ≠ ['.', '.']) :
      pieces.filterMap moveOf = ((pieces.filter (· ≠ [])).map String.ofList).map .into := by
    induction pieces with
    | nil => rfl
    | cons piece rest inductionHypothesis =>
      have first := moveOf_of_named (named piece List.mem_cons_self)
      have later := inductionHypothesis fun other member =>
        named other (List.mem_cons_of_mem piece member)
      by_cases empty : piece = [] <;> simp_all
  exact moves _ fun piece member => plain.named piece (List.mem_reverse.mp member)

/-- Folders are made along all names of a plain path. -/
theorem making_of_plain (plain : path.Plain) : path.making = path.names.map .into := by
  rw [← way_of_plain plain, way, ← way_routeOf, making, routeOf]
  cases left : path.segments.reverse.dropWhile (· = []) with
  | nil => rfl
  | cons last earlier =>
    have nonempty : last ≠ [] := by
      have kept := List.head?_dropWhile_not (fun piece : List Char => decide (piece = []))
        path.segments.reverse
      simpa [left] using kept
    have member : last ∈ path.segments := by
      have whole : last ∈ path.segments.reverse.dropWhile (· = []) := by simp [left]
      exact List.mem_reverse.mp ((List.dropWhile_suffix _).subset whole)
    have move := moveOf_of_named (plain.named last member)
    simp [move, nonempty, Route.making, Route.way]

end Path

namespace Tree

variable {tree : Tree} {names place : Place}

/-- A file lies where a beginning of some names leads. -/
def Blocked (tree : Tree) (names : Place) : Prop :=
  ∃ outer content, outer <:+ names ∧ tree.find outer = some (.file content)

/-- A beginning of some names that has no entry. -/
def Missing (tree : Tree) (names place : Place) : Prop := place <:+ names ∧ tree.find place = none

theorem holdsFile_iff :
    tree.holdsFile place = true ↔ ∃ content, tree.find place = some (.file content) := by
  rw [holdsFile]
  cases tree.find place with
  | none => simp
  | some entry => cases entry <;> simp

theorem not_blocked_nil : ¬ tree.Blocked [] := by
  rintro ⟨outer, content, first, found⟩
  obtain rfl := List.suffix_nil.mp first
  simp at found

theorem blocked_cons_iff {name : String} {outer : Place} :
    tree.Blocked (name :: outer) ↔ tree.holdsFile (name :: outer) = true ∨ tree.Blocked outer := by
  rw [holdsFile_iff]
  constructor
  · rintro ⟨around, content, first, found⟩
    rcases List.suffix_cons_iff.mp first with rfl | within
    · exact Or.inl ⟨content, found⟩
    · exact Or.inr ⟨around, content, within, found⟩
  · rintro (⟨content, found⟩ | ⟨around, content, within, found⟩)
    · exact ⟨_, content, List.suffix_refl _, found⟩
    · exact ⟨around, content, within.trans (List.suffix_cons _ _), found⟩

theorem barrier_eq_none_iff {files : Place → Bool} {occupied : IoError} {name : String}
    {outer : Place} :
    barrier files occupied name outer = none ↔
      isTooLong name = false ∧ files (name :: outer) = false := by
  rw [barrier]
  cases isTooLong name with
  | true => simp
  | false => cases files (name :: outer) <;> simp

/-- Neither a file nor a name that is too long is at the end of some names or before it. -/
theorem clear_cons_iff {name : String} {outer : Place} :
    (¬ tree.Blocked (name :: outer) ∧ ∀ other ∈ name :: outer, isTooLong other = false) ↔
      (¬ tree.Blocked outer ∧ ∀ other ∈ outer, isTooLong other = false) ∧
        isTooLong name = false ∧ tree.holdsFile (name :: outer) = false := by
  rw [blocked_cons_iff, List.forall_mem_cons, not_or, Bool.not_eq_true]
  constructor
  · exact fun ⟨⟨free, unblocked⟩, short, allShort⟩ => ⟨⟨unblocked, allShort⟩, short, free⟩
  · exact fun ⟨⟨unblocked, allShort⟩, short, free⟩ => ⟨⟨free, unblocked⟩, short, allShort⟩

/-- Nothing obstructs some names if no beginning of them is a file and none of them is too long. -/
theorem obstacle_eq_none_iff :
    obstacle tree.holdsFile names = none ↔
      ¬ tree.Blocked names ∧ ∀ name ∈ names, isTooLong name = false := by
  induction names with
  | nil => simp [obstacle, not_blocked_nil]
  | cons name outer inductionHypothesis =>
    rw [obstacle, Option.or_eq_none_iff, inductionHypothesis, barrier_eq_none_iff, clear_cons_iff]

theorem hindrance_eq_none_iff :
    hindrance tree.holdsFile names = none ↔
      ¬ tree.Blocked names ∧ ∀ name ∈ names, isTooLong name = false := by
  cases names with
  | nil => simp [hindrance, not_blocked_nil]
  | cons name outer =>
    rw [hindrance, Option.or_eq_none_iff, obstacle_eq_none_iff, barrier_eq_none_iff, clear_cons_iff]

/-- Names that lead to a file or through one are refused, but not because something is missing. -/
theorem reach_of_blocked (blocked : tree.Blocked names) :
    ∃ refusal, tree.reach (names.map .into) = .error refusal ∧ refusal.kind ≠ .notFound := by
  obtain ⟨outer, content, first, found⟩ := blocked
  have blockedHere : tree.Blocked outer := ⟨outer, content, List.suffix_refl _, found⟩
  rcases tree.reach_names_cases outer with ⟨-, unobstructed⟩ | ⟨-, absent⟩ | ⟨refusal, refused, -, kind⟩
  · exact absurd blockedHere (obstacle_eq_none_iff.mp unobstructed).1
  · cases absent.symm.trans found
  · exact ⟨refusal, reach_of_refused refused (first.map Move.into), kind⟩

/-- Where a file is in the way, it is not that something is missing. -/
theorem not_lacks_of_blocked {name : String} {outer : Place} (blocked : tree.Blocked (name :: outer)) :
    ¬ tree.Lacks (outer.map .into) (.into name) := by
  rcases tree.reach_names_cases outer with ⟨reached, -⟩ | ⟨missing, absent⟩ | ⟨refusal, refused, -, kind⟩
  · exact not_lacks_of_reach reached
  · rcases blocked_cons_iff.mp blocked with file | around
    · obtain ⟨content, found⟩ := holdsFile_iff.mp file
      cases absent.symm.trans (tree.find_outer name outer (by simp [found]))
    · obtain ⟨refusal, refused, kind⟩ := reach_of_blocked around
      cases missing.symm.trans refused
      exact absurd rfl kind
  · rintro ⟨other, refusedMaking, lacking⟩
    rw [makeFolder, refused, error_bind] at refusedMaking
    cases refusedMaking
    exact kind lacking

/-- Where a file is in the way, nothing is made. -/
theorem makeFolders_of_blocked (blocked : tree.Blocked names) :
    (tree.makeFolders (names.map .into)).2 = tree := by
  cases names with
  | nil => exact absurd blocked not_blocked_nil
  | cons name outer =>
    rcases tree.makeFolders_cons (outer.map .into) (.into name) with ⟨-, same⟩ | ⟨lacks, -⟩
    · rw [List.map_cons, same, attempt]
      cases made : tree.makeFolder (outer.map .into) (.into name) with
      | error refusal => dsimp only; split <;> rfl
      | ok around =>
        obtain ⟨place, other, reached, inner, -, free, -⟩ := makeFolder_eq_ok_iff.mp made
        cases inner
        obtain rfl : place = outer := by rw [eq_destination_of_reach reached, destination_map_into]
        rcases blocked_cons_iff.mp blocked with file | around
        · obtain ⟨content, found⟩ := holdsFile_iff.mp file
          cases free.symm.trans found
        · obtain ⟨refusal, refused, -⟩ := reach_of_blocked around
          cases reached.symm.trans refused
    · exact absurd lacks (not_lacks_of_blocked blocked)

/-- Names without a file in the way are passable up to the first one that is too long. -/
theorem passable_names_iff (unblocked : ¬ tree.Blocked names) (first : place <:+ names) :
    tree.Passable (place.map .into) ↔ ∀ name ∈ place, isTooLong name = false := by
  constructor
  · exact fun passable name member => passable.short name (List.mem_map_of_mem member)
  · intro short
    constructor
    · intro name member
      obtain ⟨other, inside, ⟨⟩⟩ := List.mem_map.mp member
      exact short name inside
    · intro outer content within found
      obtain ⟨around, inside, rfl⟩ := List.suffix_map_iff.mp within
      rw [destination_map_into] at found
      exact unblocked ⟨around, content, inside.trans first, found⟩

/-- Where no file is in the way, everything is made that is missing before the first name that is too
long. -/
theorem adds_makeFolders_names (unblocked : ¬ tree.Blocked names) :
    Adds (fun place => tree.Missing names place ∧ ∀ name ∈ place, isTooLong name = false) tree
      (tree.makeFolders (names.map .into)).2 := by
  have passes (place : Place) : tree.passed (names.map .into) place ↔
      place <:+ names ∧ ∀ name ∈ place, isTooLong name = false := by
    constructor
    · rintro ⟨outer, within, rfl, passable⟩
      obtain ⟨around, first, rfl⟩ := List.suffix_map_iff.mp within
      rw [destination_map_into]
      exact ⟨first, (passable_names_iff unblocked first).mp passable⟩
    · rintro ⟨first, short⟩
      exact ⟨place.map .into, List.suffix_map_iff.mpr ⟨place, first, rfl⟩,
        destination_map_into place, (passable_names_iff unblocked first).mpr short⟩
  intro place entry
  rw [tree.adds_makeFolders (names.map .into) place entry, passes]
  cases held : tree.find place with
  | none => simp [Missing, held]
  | some earlier =>
    -- A folder that is there already is among those that are passed, but a file is not.
    have folder (first : place <:+ names) : earlier = .folder := by
      cases earlier with
      | folder => rfl
      | file content => exact absurd ⟨place, content, first, held⟩ unblocked
    simp only [Missing, held, reduceCtorEq, and_false, false_and, or_false, Option.some.injEq,
      or_iff_left_iff_imp, and_imp]
    rintro rfl first -
    exact folder first

/-- Making a way whose folders are all made is making folders along its moves. -/
theorem makeWay_of_making {route : Route} (making : route.making = route.way) :
    tree.makeWay route = tree.makeFolders route.way := by
  obtain ⟨outer, ending⟩ := route
  cases ending with
  | entry name closed => rfl
  | folder =>
    cases outer with
    | nil => rfl
    | cons move rest => exact absurd (congrArg List.length making) (by simp [Route.making, Route.way])

end Tree

namespace State

variable {disk : State} {path : Path}

/-- A call on a plain path makes folders along its names. -/
theorem createFolders_of_plain (plain : path.Plain) (able : disk.faults .createFolders path = none) :
    disk.createFolders path = ((disk.tree.makeFolders (path.names.map .into)).1,
      disk.withTree (disk.tree.makeFolders (path.names.map .into)).2) := by
  have way := Path.way_of_plain plain
  by_cases empty : path.text = ""
  · rw [← way, Path.way_of_empty empty]
    simp [createFolders, able, empty, Tree.makeFolders, withTree]
  · have followed := Path.route_eq_ok_iff.mpr ⟨⟨plain.clean, empty, plain.short⟩, rfl⟩
    have making : (Path.routeOf path.segments.reverse).making
        = (Path.routeOf path.segments.reverse).way := by
      rw [Path.making_of_route followed, Path.way_of_route followed, Path.making_of_plain plain, way]
    rw [createFolders_of_route able followed, Tree.makeWay_of_making making,
      Path.way_of_route followed, way]

end State

end ComponentInstall.Disk
