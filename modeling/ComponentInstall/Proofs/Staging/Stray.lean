import ComponentInstall.Proofs.Disk.Passage
import ComponentInstall.Proofs.Staging.Standing

/-!
# What is made for paths that do not stay

A path that does not stay with a root enters something beside the root for the first time. On an empty
disk nothing stands against making its folders up to there, so that folder is made, and it belongs to
the root only if its name is that of a folder on the way of the root. A base that has another name
makes sure that it is not. So the paths that stay are the only ones for which nothing is made outside,
among those that a disk can follow at all.
-/

namespace ComponentInstall.Staging

open ComponentInstall.Disk

/-- Moves that do not stay with the root enter something from above it for the first time. -/
theorem exists_stray {moves : List Move} (lost : standing moves = none) :
    ∃ name outer levels, .into name :: outer <:+ moves ∧ standing outer = some (.above levels) ∧
      (levels = 0 → name ≠ rootName) := by
  induction moves with
  | nil => cases lost
  | cons move outer inductionHypothesis =>
    cases stood : standing outer with
    | none =>
      obtain ⟨name, first, levels, within, stands, beside⟩ := inductionHypothesis stood
      exact ⟨name, first, levels, within.trans (List.suffix_cons _ _), stands, beside⟩
    | some stand =>
      have moved : stand.move move = none := by simpa [standing, stood] using lost
      cases stand with
      | inside depth =>
        cases move with
        | up => cases depth <;> simp [Standing.move] at moved
        | into name => simp [Standing.move] at moved
      | above levels =>
        cases move with
        | up => simp [Standing.move] at moved
        | into name =>
          refine ⟨name, outer, levels, List.suffix_refl _, stood, ?_⟩
          rintro rfl same
          simp [Standing.move, same] at moved

/-- Moves that enter something enter it from the root for the first time. -/
theorem exists_entered {moves : List Move} (entered : ¬ ∀ move ∈ moves, move = .up) :
    ∃ name outer, .into name :: outer <:+ moves ∧ ∀ move ∈ outer, move = .up := by
  induction moves with
  | nil => exact absurd (by simp) entered
  | cons move outer inductionHypothesis =>
    by_cases before : ∀ move ∈ outer, move = .up
    · cases move with
      | up => exact absurd (by simpa using before) entered
      | into name => exact ⟨name, outer, List.suffix_refl _, before⟩
    · obtain ⟨name, first, within, ups⟩ := inductionHypothesis before
      exact ⟨name, first, within.trans (List.suffix_cons _ _), ups⟩

/-- Below a base without two dots, what belongs to the root lies around it or in it. -/
theorem comparable_of_within {tree : Tree} {base : Path} {place : Place} (names : Place)
    (straight : base.way = names.map .into) (within : Within tree (rootBelow base) place) :
    place <:+ rootName :: names ∨ rootName :: names <:+ place := by
  have way : (rootBelow base).way = (rootName :: names).map .into := by
    rw [way_rootBelow, straight]
    rfl
  rcases within with ⟨front, begins, route, followed, resolved⟩ |
      ⟨rootPlace, ⟨route, followed, resolved⟩, inside⟩
  · left
    have reached := (Tree.leadsTo_iff followed).mp ⟨route, followed, resolved⟩
    have first := Path.way_suffix_of_begins begins
    rw [way] at first
    obtain ⟨outer, around, same⟩ := List.suffix_map_iff.mp first
    rw [Tree.eq_destination_of_reach reached, same, destination_map_into]
    exact around
  · right
    have reached := (Tree.leadsTo_iff followed).mp ⟨route, followed, resolved⟩
    rw [Tree.eq_destination_of_reach reached, way, destination_map_into] at inside
    exact inside

/-- A disk can follow a path behind the root below a base of one letter: the path has no NUL and
leaves room for the thirteen bytes in front of it. -/
structure Fits (inner : Path) : Prop where
  clean : '\x00' ∉ inner.text.toList
  small : inner.text.utf8ByteSize + 13 < Path.lengthBound

/-- A base whose path is a single letter. -/
def Lettered (base : Path) : Prop := base = ⟨"b"⟩ ∨ base = ⟨"c"⟩

namespace Lettered

theorem way {base : Path} (lettered : Lettered base) : base.way = [.into base.text] := by
  rcases lettered with rfl | rfl <;> decide

theorem short {base : Path} (lettered : Lettered base) : Short (rootBelow base).way := by
  intro name member
  rw [way_rootBelow, lettered.way] at member
  rcases lettered with rfl | rfl
  all_goals
    obtain rfl | rfl : name = rootName ∨ name = _ := by simpa using member
    all_goals decide

theorem rootText {base : Path} (lettered : Lettered base) :
    (rootBelow base).text = base.text ++ "/components" := by
  rcases lettered with rfl | rfl <;> decide

end Lettered

theorem exists_lettered_ne (name : String) : ∃ base : Path, Lettered base ∧ base.text ≠ name := by
  by_cases same : name = "b"
  · exact ⟨⟨"c"⟩, Or.inr rfl, by simp [same]⟩
  · exact ⟨⟨"b"⟩, Or.inl rfl, fun other => same other.symm⟩

theorem route_of_fits {base inner : Path} (lettered : Lettered base) (named : inner.text ≠ "")
    (fits : Fits inner) : ∃ route, ((rootBelow base).join inner).route = .ok route := by
  have shape : ∃ front : String, ((rootBelow base).join inner).text = front ++ inner.text ∧
      '\x00' ∉ front.toList ∧ front.utf8ByteSize ≤ 13 := by
    by_cases absolute : inner.Absolute
    · exact ⟨"", by simp [Path.join_of_absolute _ absolute], by decide, by decide⟩
    · have behind : ¬ (inner.text.toList.head? = some '/' ∨ (rootBelow base).text = "") := by
        rintro (beginning | nothing)
        · exact absolute beginning
        · simp [lettered.rootText] at nothing
      refine ⟨(rootBelow base).text ++ "/", ?_, ?_⟩
      · rw [Path.join, if_neg behind]
        rcases lettered with rfl | rfl <;> rfl
      · rw [lettered.rootText]
        rcases lettered with rfl | rfl <;> decide
  obtain ⟨front, text, clean, short⟩ := shape
  have small := fits.small
  refine ⟨_, Path.route_eq_ok_iff.mpr ⟨⟨?_, ?_, ?_⟩, rfl⟩⟩
  · rw [text, String.toList_append]
    simpa using ⟨clean, fits.clean⟩
  · exact Path.join_ne_empty _ named
  · rw [text, String.utf8ByteSize_append]
    omega

/-- On the empty disk the first moves of a path can be followed after its folders were made. -/
theorem reach_createFolders_empty {path : Path} {route : Route} {outer : List Move}
    (followed : path.route = .ok route) (first : outer <:+ path.making) (short : Short outer) :
    ((State.plain .empty).createFolders path).2.tree.reach outer = .ok (destination outer) := by
  obtain ⟨⟨-, named, -⟩, -⟩ := Path.route_eq_ok_iff.mp followed
  rw [← Path.making_of_route followed] at first
  obtain ⟨place, reached⟩ := Tree.reach_makeWay_of_passable (Tree.passable_empty short) first
  have same : ((State.plain .empty).createFolders path).2.tree = (Tree.empty.makeWay route).2 := by
    simp [State.createFolders, State.plain, State.withTree, named, followed]
  rw [same, ← Tree.eq_destination_of_reach reached]
  exact reached

/-- For some base, making the folders of a path behind its root makes one on an empty disk that does
not belong to the root. -/
def MakesOutside (inner : Path) : Prop :=
  ∃ base, Lettered base ∧ ∃ place, Tree.empty.find place = none ∧
    ((State.plain .empty).createFolders ((rootBelow base).join inner)).2.tree.find place
      = some .folder ∧
    ∀ tree, ¬ Within tree (rootBelow base) place

/-- A path from the root of the disk makes the first folder that it enters, whatever the base. -/
theorem makesOutside_of_entered {inner : Path} (named : inner.text ≠ "") (fits : Fits inner)
    (absolute : inner.Absolute) (entered : ¬ ∀ move ∈ passed inner, move = .up) :
    MakesOutside inner := by
  obtain ⟨name, outer, first, ups⟩ := exists_entered entered
  obtain ⟨base, lettered, differs⟩ := exists_lettered_ne name
  obtain ⟨route, followed⟩ := route_of_fits lettered named fits
  have along : .into name :: outer <:+ ((rootBelow base).join inner).making := by
    rw [Path.join_of_absolute _ absolute]
    exact first.trans (passed_suffix inner)
  have made := Tree.find_of_reach
    (reach_createFolders_empty followed along ((short_passed inner).of_suffix first))
  rw [destination, destination_of_ups ups] at made
  refine ⟨base, lettered, [name], rfl, made, ?_⟩
  intro tree within
  have around := comparable_of_within [base.text] lettered.way within
  simp [List.suffix_cons_iff, Ne.symm differs] at around

/-- A path that enters something from above the root makes it, unless the base has the same name. -/
theorem makesOutside_of_lost {inner : Path} (named : inner.text ≠ "") (fits : Fits inner)
    (relative : ¬ inner.Absolute) (lost : standing (passed inner) = none) : MakesOutside inner := by
  obtain ⟨name, outer, levels, first, stands, beside⟩ := exists_stray lost
  obtain ⟨base, lettered, differs⟩ := exists_lettered_ne name
  obtain ⟨route, followed⟩ := route_of_fits lettered named fits
  have within := first.trans (passed_suffix inner)
  have behind : ((rootBelow base).join inner).making = inner.making ++ (rootBelow base).way := by
    rcases Path.making_join (rootBelow base) relative named with making | ⟨nothing, -⟩
    · exact making
    · rw [nothing] at within
      simp at within
  have along : .into name :: outer ++ (rootBelow base).way
      <:+ ((rootBelow base).join inner).making := by
    obtain ⟨later, whole⟩ := within
    exact ⟨later, by rw [behind, ← whole, List.append_assoc]⟩
  have made := Tree.find_of_reach (reach_createFolders_empty followed along
    (((short_passed inner).of_suffix first).append lettered.short))
  have rootPlace : destination (rootBelow base).way = [rootName, base.text] := by
    rw [way_rootBelow, lettered.way]
    rfl
  have held := holds_of_standing rootPlace stands
  simp only [Standing.Holds, rootPlace] at held
  rw [List.cons_append, destination, held] at made
  refine ⟨base, lettered, _, rfl, made, ?_⟩
  intro tree within
  have around := comparable_of_within [base.text] lettered.way within
  cases levels with
  | zero =>
    have same : name = rootName ∨ rootName = name := by
      simpa [List.suffix_cons_iff] using around
    exact same.elim (beside rfl) fun other => beside rfl other.symm
  | succ further => simp [List.suffix_cons_iff, Ne.symm differs] at around

/-- For a path that does not stay with its root there is a root below which more is made. -/
theorem makesOutside_of_not_stays {inner : Path} (named : inner.text ≠ "") (fits : Fits inner)
    (strays : ¬ Stays inner) : MakesOutside inner := by
  by_cases absolute : inner.Absolute
  · rw [Stays, if_pos absolute] at strays
    exact makesOutside_of_entered named fits absolute strays
  · rw [Stays, if_neg absolute, not_not] at strays
    exact makesOutside_of_lost named fits absolute strays

end ComponentInstall.Staging
