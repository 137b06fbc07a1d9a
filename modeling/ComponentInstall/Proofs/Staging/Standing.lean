import ComponentInstall.Proofs.Disk.Growth
import Mathlib.Data.List.DropRight

/-!
# Where staging folders lie

A name and a version are put behind the staging root as they are. Parts that begin at the root of
the disk replace the staging root, and two dots climb out of it, so not every staging folder lies
where the staging root is. `Standing` follows the moves of a name and a version from the staging root
and knows how deep inside or how far above one stands, up to the point where something beside the
root is entered. A name and a version that never come to this point stay with the root.

What is made for names and versions that stay is `Within` the root: a beginning of the root's path
leads to it, or it lies in the folder that the root is.
-/

namespace ComponentInstall.Staging

open ComponentInstall.Disk

/-- The last name of every staging root. -/
def rootName : String := "components"

/-- How one stands to the staging root: some levels below it, or some levels above the folder around
it. -/
inductive Standing
  | inside (depth : Nat)
  | above (levels : Nat)
deriving DecidableEq, Repr

/-- One move on. From above only the root itself may be entered, and only from the folder around it. -/
def Standing.move : Standing → Move → Option Standing
  | .inside 0, .up => some (.above 0)
  | .inside (depth + 1), .up => some (.inside depth)
  | .inside depth, .into _ => some (.inside (depth + 1))
  | .above levels, .up => some (.above (levels + 1))
  | .above 0, .into name => if name = rootName then some (.inside 0) else none
  | .above (_ + 1), .into _ => none

/-- How one stands after moves from the root, the last one first, unless something beside it was
entered. -/
def standing : List Move → Option Standing
  | [] => some (.inside 0)
  | move :: outer => (standing outer).bind (·.move move)

/-- Whether a move is not refused for the length of its name. -/
def isShort : Move → Bool
  | .up => true
  | .into name => !isTooLong name

/-- The moves along which folders can be made for a path, up to a name that no entry can have. -/
def passed (inner : Path) : List Move := inner.making.rtakeWhile isShort

/-- A path stays with a root that it is put behind. A path that begins at the root of the disk forgets
the other root, so it stays with it only if it enters nothing. -/
def Stays (inner : Path) : Prop :=
  if inner.Absolute then ∀ move ∈ passed inner, move = .up else standing (passed inner) ≠ none

instance (inner : Path) : Decidable (Stays inner) :=
  inferInstanceAs (Decidable (if inner.Absolute then ∀ move ∈ passed inner, move = .up
    else standing (passed inner) ≠ none))

theorem passed_suffix (inner : Path) : passed inner <:+ inner.making :=
  List.rtakeWhile_suffix isShort inner.making

theorem short_passed (inner : Path) : Short (passed inner) := by
  intro name member
  simpa [isShort] using List.mem_rtakeWhile_imp member

/-- First moves that are not refused for their names are passed. -/
theorem suffix_passed {inner : Path} {outer : List Move} (first : outer <:+ inner.making)
    (short : Short outer) : outer <:+ passed inner := by
  have allShort : ∀ move ∈ outer.reverse, isShort move = true := by
    intro move member
    cases move with
    | up => rfl
    | into name => simp [isShort, short name (List.mem_reverse.mp member)]
  obtain ⟨later, whole⟩ := first
  rw [passed, ← whole, List.rtakeWhile, List.reverse_append,
    List.takeWhile_append_of_pos allShort, List.reverse_append, List.reverse_reverse]
  exact List.suffix_append _ _

theorem standing_of_suffix {moves outer : List Move} (stays : standing moves ≠ none)
    (first : outer <:+ moves) : standing outer ≠ none := by
  induction moves with
  | nil =>
    obtain rfl : outer = [] := List.suffix_nil.mp first
    exact stays
  | cons move rest inductionHypothesis =>
    rcases List.suffix_cons_iff.mp first with rfl | within
    · exact stays
    · refine inductionHypothesis ?_ within
      intro lost
      exact stays (by simp [standing, lost])

/-- What a standing says of a place. -/
def Standing.Holds (root place : Place) : Standing → Prop
  | .inside depth => ∃ below : Place, below.length = depth ∧ place = below ++ root
  | .above levels => place = root.drop (levels + 1)

/-- The standing after some moves holds of the place that they lead to from the root. -/
theorem holds_of_standing {root moves : List Move} {around : Place} {stand : Standing}
    (rootPlace : destination root = rootName :: around) (stands : standing moves = some stand) :
    stand.Holds (destination root) (destination (moves ++ root)) := by
  induction moves generalizing stand with
  | nil =>
    cases stands
    exact ⟨[], rfl, rfl⟩
  | cons move outer inductionHypothesis =>
    obtain ⟨before, stood, moved⟩ := Option.bind_eq_some_iff.mp stands
    have held := inductionHypothesis stood
    cases before with
    | inside depth =>
      obtain ⟨below, length, place⟩ := held
      cases move with
      | up =>
        cases below with
        | nil =>
          obtain rfl : 0 = depth := length
          cases moved
          simp [Standing.Holds, destination, place]
        | cons name rest =>
          obtain rfl : rest.length + 1 = depth := length
          cases moved
          exact ⟨rest, rfl, by simp [destination, place]⟩
      | into name =>
        obtain rfl : .inside (depth + 1) = stand := by simpa [Standing.move] using moved
        exact ⟨name :: below, by simp [length], by simp [destination, place]⟩
    | above levels =>
      cases move with
      | up =>
        obtain rfl : .above (levels + 1) = stand := by simpa [Standing.move] using moved
        simp only [Standing.Holds] at held ⊢
        simp [destination, held]
      | into name =>
        cases levels with
        | zero =>
          obtain ⟨rfl, rfl⟩ : name = rootName ∧ .inside 0 = stand := by
            simpa [Standing.move] using moved
          refine ⟨[], rfl, ?_⟩
          simp only [Standing.Holds, rootPlace, List.drop_succ_cons, List.drop_zero] at held
          simp [destination, held, rootPlace]
        | succ further => simp [Standing.move] at moved

theorem destination_of_ups {moves : List Move} (ups : ∀ move ∈ moves, move = .up) :
    destination moves = [] := by
  induction moves with
  | nil => rfl
  | cons move outer inductionHypothesis =>
    obtain rfl : move = .up := ups move List.mem_cons_self
    have outermost : destination outer = [] :=
      inductionHypothesis fun other member => ups other (List.mem_cons_of_mem _ member)
    simp [destination, outermost]

/-- The root of the staging folders below a base. -/
def rootBelow (base : Path) : Path := base.join ⟨rootName⟩

theorem normal_rootName : NormalSegment rootName := by
  constructor <;> decide

theorem way_rootBelow (base : Path) : (rootBelow base).way = .into rootName :: base.way :=
  Path.way_join_normal base normal_rootName

/-- A place belongs to a root: a beginning of the root's path leads to it, or it lies in the folder
that the root is. -/
def Within (tree : Tree) (root : Path) (place : Place) : Prop :=
  (∃ front : Path, front.Begins root ∧ tree.LeadsTo front place) ∨
    ∃ rootPlace, tree.LeadsTo root rootPlace ∧ rootPlace <:+ place

/-- What the first moves of the root's way lead to belongs to the root. -/
theorem within_of_first {tree : Tree} {root : Path} {route : Route} {outer : List Move}
    {place : Place} (followed : root.route = .ok route) (first : outer <:+ root.way)
    (reached : tree.reach outer = .ok place) (inner : place ≠ []) : Within tree root place := by
  have moves : outer ≠ [] := by
    rintro rfl
    cases reached
    exact inner rfl
  obtain ⟨front, begins, way, frontRoute, frontFollowed⟩ := Path.exists_begins followed moves first
  refine Or.inl ⟨front, begins, (Tree.leadsTo_iff frontFollowed).mpr ?_⟩
  rw [way]
  exact reached

/-- Where one can stand to a root belongs to it. -/
theorem within_of_standing {tree : Tree} {base : Path} {route : Route} {moves : List Move}
    {place : Place} {stand : Standing} (followed : (rootBelow base).route = .ok route)
    (stands : standing moves = some stand)
    (reached : tree.reach (moves ++ (rootBelow base).way) = .ok place) (inner : place ≠ []) :
    Within tree (rootBelow base) place := by
  have rootReached : tree.reach (rootBelow base).way = .ok (destination (rootBelow base).way) :=
    Tree.reach_of_suffix reached (List.suffix_append _ _)
  have rootPlace : destination (rootBelow base).way = rootName :: destination base.way := by
    rw [way_rootBelow]
    rfl
  have held := holds_of_standing rootPlace stands
  rw [← Tree.eq_destination_of_reach reached] at held
  cases stand with
  | inside depth =>
    obtain ⟨below, -, rfl⟩ := held
    exact Or.inr ⟨_, (Tree.leadsTo_iff followed).mpr rootReached, List.suffix_append _ _⟩
  | above levels =>
    -- The folder around the root was entered on the way to the root.
    have around : place <:+ destination (rootBelow base).way := by
      rw [show place = (destination (rootBelow base).way).drop (levels + 1) from held]
      exact List.drop_suffix _ _
    obtain ⟨outer, first, same⟩ := exists_destination_of_suffix around
    have outerReached := Tree.reach_of_suffix rootReached first
    rw [same] at outerReached
    exact within_of_first followed first outerReached inner

theorem route_of_join_root {base inner : Path} {route : Route} (relative : ¬ inner.Absolute)
    (followed : ((rootBelow base).join inner).route = .ok route) :
    ∃ route, (rootBelow base).route = .ok route := by
  have rootNamed : (Disk.Path.mk rootName).text ≠ "" := normal_rootName.named
  have named : (rootBelow base).text ≠ "" := Path.join_ne_empty base rootNamed
  have closed : (rootBelow base).text.toList.getLast? ≠ some '/' := by
    rw [rootBelow, Path.getLast?_join base rootNamed]
    decide
  exact Path.route_of_begins (Path.begins_join relative named closed) named followed

/-- What is made for a path that stays with its root belongs to the root. -/
theorem within_of_stays {base inner : Path} {route : Route} {before after : Tree} {place : Place}
    (stays : Stays inner) (named : inner.text ≠ "")
    (followed : ((rootBelow base).join inner).route = .ok route)
    (grown : Tree.Grows ((rootBelow base).join inner).making before after)
    (missing : before.find place = none) (found : after.find place ≠ none) :
    Within after (rootBelow base) place := by
  obtain ⟨entry, held⟩ := Option.ne_none_iff_exists'.mp found
  obtain ⟨-, outer, first, reached⟩ := grown.made place entry missing held
  have inside : place ≠ [] := by
    rintro rfl
    simp at missing
  have short := Tree.short_of_reach reached
  by_cases absolute : inner.Absolute
  · rw [Path.join_of_absolute _ absolute] at first
    rw [Stays, if_pos absolute] at stays
    have ups : destination outer = [] :=
      destination_of_ups fun move member => stays move ((suffix_passed first short).subset member)
    exact absurd ((Tree.eq_destination_of_reach reached).trans ups) inside
  · rw [Stays, if_neg absolute] at stays
    obtain ⟨rootRoute, rootFollowed⟩ := route_of_join_root absolute followed
    rcases Path.making_join (rootBelow base) absolute named with making | ⟨-, making⟩
    · rw [making] at first
      obtain ⟨later, whole⟩ := first
      rcases List.append_eq_append_iff.mp whole with ⟨more, split, rfl⟩ | ⟨more, -, split⟩
      · -- The root is passed: the moves after it are first moves of the inner path.
        have within : more <:+ passed inner :=
          suffix_passed ⟨later, split.symm⟩ fun name member =>
            short name (List.mem_append_left _ member)
        obtain ⟨stand, stands⟩ :=
          Option.ne_none_iff_exists'.mp (standing_of_suffix stays within)
        exact within_of_standing rootFollowed stands reached inside
      · exact within_of_first rootFollowed ⟨more, split.symm⟩ reached inside
    · rw [making] at first
      exact within_of_first rootFollowed (first.trans (List.tail_suffix _)) reached inside

end ComponentInstall.Staging
