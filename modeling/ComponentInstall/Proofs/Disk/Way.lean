import ComponentInstall.Disk.Walk

/-!
# The ways of paths

What a path does on a disk is decided by its way: the moves that its segments ask for, the last one
first. The spelling of a path beyond that only decides whether it can be followed at all, and
whether it asks for a folder by a closing slash.

The way of a joined path is the way of the part in front of that of the base, unless the part begins
at the root; then the base is forgotten. Conversely, whatever the beginning of a way leads to is the
end of the way of some beginning of the path, one that stops before a slash. So what is said about
moves can be told about paths.
-/

namespace ComponentInstall.Text

/-- Every beginning of the pieces of a text belongs to a beginning of the text itself, which is
followed by a separator or by nothing. -/
theorem split_beginning (separator : Char) (cs : List Char) (pieces : List (List Char))
    (some_piece : pieces ≠ []) (first : pieces <+: split separator cs) :
    ∃ front rest, cs = front ++ rest ∧ (rest = [] ∨ rest.head? = some separator) ∧
      split separator front = pieces := by
  induction cs generalizing pieces with
  | nil =>
    obtain ⟨others, whole⟩ := first
    cases pieces with
    | nil => exact absurd rfl some_piece
    | cons piece more =>
      obtain ⟨rfl, nothing⟩ : piece = [] ∧ more ++ others = [] := by simpa [split] using whole
      obtain ⟨rfl, rfl⟩ := List.append_eq_nil_iff.mp nothing
      exact ⟨[], [], rfl, Or.inl rfl, rfl⟩
  | cons c rest inductionHypothesis =>
    cases pieces with
    | nil => exact absurd rfl some_piece
    | cons piece more =>
      by_cases isSeparator : c = separator
      · obtain ⟨rfl, later⟩ : piece = [] ∧ more <+: split separator rest := by
          simpa [split, isSeparator, List.cons_prefix_cons] using first
        cases more with
        | nil => exact ⟨[], c :: rest, rfl, Or.inr (by simp [isSeparator]), rfl⟩
        | cons second others =>
          obtain ⟨front, behind, rfl, ends, pieces⟩ :=
            inductionHypothesis (second :: others) (by simp) later
          exact ⟨c :: front, behind, rfl, ends, by simp [split, isSeparator, pieces]⟩
      · obtain ⟨head, tail, pieces⟩ := List.exists_cons_of_ne_nil (split_ne_nil separator rest)
        obtain ⟨rfl, later⟩ : piece = c :: head ∧ more <+: tail := by
          simpa [split, isSeparator, pieces, List.cons_prefix_cons] using first
        obtain ⟨front, behind, rfl, ends, own⟩ :=
          inductionHypothesis (head :: more) (by simp) (by
            rw [pieces]
            exact List.cons_prefix_cons.mpr ⟨rfl, later⟩)
        exact ⟨c :: front, behind, rfl, ends, by simp [split, isSeparator, own]⟩

end ComponentInstall.Text

namespace ComponentInstall.Disk

open ComponentInstall.Text

/-- All moves of a way, its ending included. -/
def Route.way (route : Route) : List Move :=
  match route.ending with
  | .folder => route.outer
  | .entry name _ => .into name :: route.outer

/-- The moves of a way along which folders are made. The last folder of a way that ends at a folder
by itself is not among them: it has to be there. -/
def Route.making (route : Route) : List Move :=
  match route.ending with
  | .folder => route.outer.tail
  | .entry name _ => .into name :: route.outer

theorem Route.making_suffix (route : Route) : route.making <:+ route.way := by
  obtain ⟨outer, ending⟩ := route
  cases ending with
  | folder => exact List.tail_suffix outer
  | entry name closed => exact List.suffix_refl _

/-- A text that is a single name in a path: not empty, without a slash, and no dots that move. -/
structure NormalSegment (text : String) : Prop where
  named : text ≠ ""
  undivided : '/' ∉ text.toList
  notHere : text ≠ "."
  notUp : text ≠ ".."

namespace Path

/-- A path that begins at the root. -/
def Absolute (path : Path) : Prop := path.text.toList.head? = some '/'

instance (path : Path) : Decidable path.Absolute :=
  inferInstanceAs (Decidable (path.text.toList.head? = some '/'))

/-- The moves that a path asks for, the last one first. -/
def way (path : Path) : List Move := path.segments.reverse.filterMap moveOf

/-- The moves along which folders are made for a path. -/
def making (path : Path) : List Move := (routeOf path.segments.reverse).making

/-- A path begins another one if the other goes on behind a slash, or not at all. -/
def Begins (outer path : Path) : Prop :=
  ∃ rest, path.text.toList = outer.text.toList ++ rest ∧ (rest = [] ∨ rest.head? = some '/')

theorem segments_of_text {path : Path} {left right : List Char}
    (text : path.text.toList = left ++ '/' :: right) :
    path.segments = split '/' left ++ split '/' right := by
  rw [segments, text, split_append_separator]

theorem way_of_empty {path : Path} (empty : path.text = "") : path.way = [] := by
  simp [way, segments, empty, split, moveOf]

/-- A part that begins at the root replaces the base. -/
theorem join_of_absolute {part : Path} (base : Path) (absolute : part.Absolute) :
    base.join part = part := if_pos (Or.inl absolute)

theorem join_of_empty {base : Path} (part : Path) (empty : base.text = "") :
    base.join part = part := if_pos (Or.inr empty)

/-- Any other part stands behind the base and a slash, which may be the last one of the base. -/
theorem toList_join (base : Path) {part : Path} (relative : ¬ part.Absolute) (named : base.text ≠ "") :
    (base.join part).text.toList = base.text.toList
      ++ (if base.text.toList.getLast? = some '/' then [] else ['/']) ++ part.text.toList := by
  have notReplaced : ¬ (part.text.toList.head? = some '/' ∨ base.text = "") := by
    rintro (absolute | isEmpty)
    · exact relative absolute
    · exact named isEmpty
  rw [join, if_neg notReplaced]
  split <;> simp

theorem absolute_of_toList {left right : Path} {rest : List Char}
    (text : left.text.toList = right.text.toList ++ rest) (named : right.text ≠ "") :
    left.Absolute ↔ right.Absolute := by
  have someCharacter : right.text.toList ≠ [] := by simpa using named
  obtain ⟨c, others, characters⟩ := List.exists_cons_of_ne_nil someCharacter
  simp [Absolute, text, characters]

/-- A joined path ends as its part does. -/
theorem getLast?_join (base : Path) {part : Path} (named : part.text ≠ "") :
    (base.join part).text.toList.getLast? = part.text.toList.getLast? := by
  by_cases absolute : part.Absolute
  · rw [join_of_absolute base absolute]
  by_cases empty : base.text = ""
  · rw [join_of_empty part empty]
  have someCharacter : part.text.toList ≠ [] := by simpa using named
  rw [toList_join base absolute empty, List.getLast?_append,
    List.getLast?_eq_some_getLast someCharacter, Option.some_or]

theorem join_ne_empty (base : Path) {part : Path} (named : part.text ≠ "") :
    (base.join part).text ≠ "" := by
  intro empty
  have last := getLast?_join base named
  have someCharacter : part.text.toList ≠ [] := by simpa using named
  simp [empty, List.getLast?_eq_some_getLast someCharacter] at last

/-- A base without a slash at its end begins what is joined behind it. -/
theorem begins_join {base part : Path} (relative : ¬ part.Absolute) (named : base.text ≠ "")
    (closed : base.text.toList.getLast? ≠ some '/') : base.Begins (base.join part) := by
  refine ⟨'/' :: part.text.toList, ?_, Or.inr rfl⟩
  rw [toList_join base relative named, if_neg closed, List.append_assoc]
  rfl

/-- Parts may be joined among themselves first, unless the one in the middle is empty. -/
theorem join_assoc (first : Path) {second : Path} (third : Path) (named : second.text ≠ "") :
    (first.join second).join third = first.join (second.join third) := by
  by_cases thirdAbsolute : third.Absolute
  · simp only [join_of_absolute _ thirdAbsolute]
  by_cases empty : first.text = ""
  · simp only [join_of_empty _ empty]
  have text := toList_join second thirdAbsolute named
  rw [List.append_assoc] at text
  by_cases secondAbsolute : second.Absolute
  · have bothAbsolute : (second.join third).Absolute :=
      (absolute_of_toList text named).mpr secondAbsolute
    rw [join_of_absolute first secondAbsolute, join_of_absolute first bothAbsolute]
  have bothRelative : ¬ (second.join third).Absolute := fun absolute =>
    secondAbsolute ((absolute_of_toList text named).mp absolute)
  have firstText := toList_join first secondAbsolute empty
  have joined : ((first.join second).join third).text.toList
      = (first.join (second.join third)).text.toList := by
    rw [toList_join _ thirdAbsolute (join_ne_empty first named), getLast?_join first named,
      toList_join _ bothRelative empty, firstText, text]
    simp only [List.append_assoc]
  exact congrArg Path.mk (String.toList_injective joined)

/-- The segments of any other part stand behind what moves as the base does. They need not be those
of the base, which may end in an empty one. -/
theorem segments_join (base : Path) {part : Path} (relative : ¬ part.Absolute) :
    ∃ front, (base.join part).segments = front ++ part.segments ∧
      front.reverse.filterMap moveOf = base.way := by
  by_cases empty : base.text = ""
  · exact ⟨[], by rw [join_of_empty part empty, List.nil_append], (way_of_empty empty).symm⟩
  have joined := toList_join base relative empty
  by_cases closed : base.text.toList.getLast? = some '/'
  · -- The slash that separates base and part is the last character of the base.
    obtain ⟨front, text⟩ := List.getLast?_eq_some_iff.mp closed
    rw [if_pos closed, List.append_nil, text, List.append_assoc] at joined
    refine ⟨split '/' front, segments_of_text joined, ?_⟩
    rw [way, segments_of_text text]
    simp [split, moveOf]
  · rw [if_neg closed, List.append_assoc] at joined
    exact ⟨base.segments, segments_of_text joined, rfl⟩

/-- Any other part goes on where the base ends. -/
theorem way_join (base : Path) {part : Path} (relative : ¬ part.Absolute) :
    (base.join part).way = part.way ++ base.way := by
  obtain ⟨front, segments, same⟩ := segments_join base relative
  rw [way, segments, List.reverse_append, List.filterMap_append, same]
  rfl

theorem segments_of_normal {name : String} (normal : NormalSegment name) :
    (Path.mk name).segments = [name.toList] :=
  split_eq_singleton '/' name.toList normal.undivided

theorem moveOf_of_normal {name : String} (normal : NormalSegment name) :
    moveOf name.toList = some (.into name) := by
  have spelled (text : String) (differs : name ≠ text) : name.toList ≠ text.toList :=
    fun same => differs (String.toList_injective same)
  have named : name.toList ≠ [] := spelled "" normal.named
  have notHere : name.toList ≠ ['.'] := spelled "." normal.notHere
  have notUp : name.toList ≠ ['.', '.'] := spelled ".." normal.notUp
  simp [moveOf, named, notHere, notUp]

theorem way_of_normal {name : String} (normal : NormalSegment name) :
    (Path.mk name).way = [.into name] := by
  simp [way, segments_of_normal normal, moveOf_of_normal normal]

theorem relative_of_normal {name : String} (normal : NormalSegment name) :
    ¬ (Path.mk name).Absolute := by
  intro absolute
  exact normal.undivided (List.mem_of_mem_head? absolute)

theorem way_join_normal (base : Path) {name : String} (normal : NormalSegment name) :
    (base.join ⟨name⟩).way = .into name :: base.way := by
  rw [way_join base (relative_of_normal normal), way_of_normal normal]
  rfl

/-- A way without two dots only leads into folders, so it is a list of names. -/
theorem way_of_straight {path : Path} (straight : ['.', '.'] ∉ path.segments) :
    ∃ names : Place, path.way = names.map Move.into := by
  have moves (segments : List (List Char)) (straight : ['.', '.'] ∉ segments) :
      ∃ names : Place, segments.filterMap moveOf = names.map Move.into := by
    induction segments with
    | nil => exact ⟨[], rfl⟩
    | cons segment rest inductionHypothesis =>
      obtain ⟨notUp, later⟩ : ['.', '.'] ≠ segment ∧ ['.', '.'] ∉ rest := by
        simpa using straight
      obtain ⟨names, same⟩ := inductionHypothesis later
      by_cases nowhere : segment = [] ∨ segment = ['.']
      · exact ⟨names, by simp [moveOf, nowhere, same]⟩
      · exact ⟨String.ofList segment :: names, by
          simp [moveOf, nowhere, Ne.symm notUp, same]⟩
  exact moves path.segments.reverse (by simpa using straight)

/-- Paths without two dots that are joined lead along names only. -/
theorem way_join_of_straight {base part : Path} (baseStraight : ['.', '.'] ∉ base.segments)
    (partStraight : ['.', '.'] ∉ part.segments) :
    ∃ names : Place, (base.join part).way = names.map Move.into := by
  obtain ⟨inner, partWay⟩ := way_of_straight partStraight
  by_cases absolute : part.Absolute
  · rw [join_of_absolute base absolute]
    exact ⟨inner, partWay⟩
  · obtain ⟨outer, baseWay⟩ := way_of_straight baseStraight
    rw [way_join base absolute, partWay, baseWay]
    exact ⟨inner ++ outer, List.map_append.symm⟩

theorem filterMap_dropWhile_empty (segments : List (List Char)) :
    (segments.dropWhile (· = [])).filterMap moveOf = segments.filterMap moveOf := by
  induction segments with
  | nil => rfl
  | cons segment rest inductionHypothesis =>
    by_cases empty : segment = []
    · simpa [empty, moveOf] using inductionHypothesis
    · simp [empty]

/-- How a way ends is decided by the last pieces, unless they are all empty. -/
theorem routeOf_append {later : List (List Char)} (earlier : List (List Char))
    (something : ∃ piece ∈ later, piece ≠ []) :
    routeOf (later ++ earlier) =
      ⟨(routeOf later).outer ++ earlier.filterMap moveOf, (routeOf later).ending⟩ := by
  have notDropped : later.dropWhile (· = []) ≠ [] := by
    obtain ⟨piece, inside, nonempty⟩ := something
    intro nothing
    have allEmpty : later.all (· = []) = true := by
      have whole := List.takeWhile_append_dropWhile (p := (· = [])) (l := later)
      rw [nothing, List.append_nil] at whole
      rw [← whole]
      exact List.all_takeWhile
    exact nonempty (by simpa using List.all_eq_true.mp allEmpty piece inside)
  obtain ⟨last, rest, left⟩ := List.exists_cons_of_ne_nil notDropped
  have dropped : (later ++ earlier).dropWhile (· = []) = last :: (rest ++ earlier) := by
    rw [List.dropWhile_append, left]
    rfl
  have closing : (later ++ earlier).head? = later.head? := by
    cases later with
    | nil => simp at something
    | cons piece others => rfl
  simp only [routeOf, dropped, left, closing]
  cases move : moveOf last with
  | none => simp [move]
  | some found => cases found <;> simp [move]

theorem exists_segment_ne_nil {part : Path} (relative : ¬ part.Absolute) (named : part.text ≠ "") :
    ∃ piece ∈ part.segments.reverse, piece ≠ [] := by
  have someCharacter : part.text.toList ≠ [] := by simpa using named
  obtain ⟨c, rest, characters⟩ := List.exists_cons_of_ne_nil someCharacter
  have noSlash : c ≠ '/' := by
    rintro rfl
    exact relative (by simp [Absolute, characters])
  obtain ⟨piece, pieces, behind⟩ := List.exists_cons_of_ne_nil (split_ne_nil '/' rest)
  exact ⟨c :: piece, by simp [segments, characters, split, noSlash, behind], by simp⟩

/-- The way of a joined path ends as that of its part. -/
theorem routeOf_join (base : Path) {part : Path} (relative : ¬ part.Absolute)
    (named : part.text ≠ "") :
    routeOf (base.join part).segments.reverse =
      ⟨(routeOf part.segments.reverse).outer ++ base.way,
        (routeOf part.segments.reverse).ending⟩ := by
  obtain ⟨front, segments, same⟩ := segments_join base relative
  rw [segments, List.reverse_append,
    routeOf_append front.reverse (exists_segment_ne_nil relative named), same]

theorem way_routeOf (reversed : List (List Char)) :
    (routeOf reversed).way = reversed.filterMap moveOf := by
  rw [← filterMap_dropWhile_empty, routeOf]
  cases reversed.dropWhile (· = []) with
  | nil => rfl
  | cons last earlier =>
    cases move : moveOf last with
    | none => simp [Route.way, move]
    | some found => cases found <;> simp [Route.way, move]

theorem making_suffix (path : Path) : path.making <:+ path.way := by
  rw [way, ← way_routeOf]
  exact Route.making_suffix _

/-- Folders are made along the moves of a part and then along those of its base. Only a part that does
not move leaves the last folder of its base to be there. -/
theorem making_join (base : Path) {part : Path} (relative : ¬ part.Absolute)
    (named : part.text ≠ "") :
    (base.join part).making = part.making ++ base.way ∨
      part.making = [] ∧ (base.join part).making = base.way.tail := by
  rw [making, making, routeOf_join base relative named]
  obtain ⟨outer, ending⟩ := routeOf part.segments.reverse
  cases ending with
  | entry name closed => exact Or.inl rfl
  | folder =>
    cases outer with
    | nil => exact Or.inr ⟨rfl, rfl⟩
    | cons move rest => exact Or.inl rfl

/-- A path can be followed if it is neither empty nor too long and has no NUL. -/
theorem route_eq_ok_iff {path : Path} {route : Route} :
    path.route = .ok route ↔
      ('\x00' ∉ path.text.toList ∧ path.text ≠ "" ∧ path.text.utf8ByteSize < lengthBound) ∧
        route = routeOf path.segments.reverse := by
  rw [Path.route]
  by_cases nul : '\x00' ∈ path.text.toList
  · simp [nul]
  by_cases empty : path.text = ""
  · simp [empty]
  rw [if_neg nul, if_neg empty]
  by_cases long : lengthBound ≤ path.text.utf8ByteSize
  · rw [if_pos long]
    constructor
    · intro impossible
      cases impossible
    · rintro ⟨⟨-, -, short⟩, -⟩
      exact absurd short (Nat.not_lt.mpr long)
  · rw [if_neg long]
    constructor
    · intro same
      exact ⟨⟨nul, empty, Nat.lt_of_not_le long⟩, (Except.ok.inj same).symm⟩
    · rintro ⟨-, rfl⟩
      rfl

/-- A path that can be followed is followed along its way. -/
theorem way_of_route {path : Path} {route : Route} (followed : path.route = .ok route) :
    route.way = path.way := by
  obtain ⟨-, rfl⟩ := route_eq_ok_iff.mp followed
  exact way_routeOf path.segments.reverse

theorem making_of_route {path : Path} {route : Route} (followed : path.route = .ok route) :
    route.making = path.making := by
  obtain ⟨-, rfl⟩ := route_eq_ok_iff.mp followed
  rfl

/-- Behind a base, a single name is the entry that the path ends at. -/
theorem route_join_normal {base : Path} {name : String} {route : Route}
    (normal : NormalSegment name) (followed : (base.join ⟨name⟩).route = .ok route) :
    route = ⟨base.way, .entry name false⟩ := by
  obtain ⟨-, rfl⟩ := route_eq_ok_iff.mp followed
  rw [routeOf_join base (relative_of_normal normal) normal.named, segments_of_normal normal]
  have named : name.toList ≠ [] := by simpa using normal.named
  simp [routeOf, named, moveOf_of_normal normal]

/-- What begins a path that can be followed can be followed itself, unless it is empty. -/
theorem route_of_begins {front path : Path} {route : Route} (begins : front.Begins path)
    (named : front.text ≠ "") (followed : path.route = .ok route) :
    ∃ route, front.route = .ok route := by
  obtain ⟨⟨clean, -, short⟩, -⟩ := route_eq_ok_iff.mp followed
  obtain ⟨rest, text, -⟩ := begins
  have whole : path.text = front.text ++ String.ofList rest := by
    apply String.toList_injective
    simpa using text
  have frontClean : '\x00' ∉ front.text.toList := by
    intro inside
    exact clean (by simp [text, inside])
  have frontShort : front.text.utf8ByteSize < lengthBound := by
    rw [whole, String.utf8ByteSize_append] at short
    omega
  exact ⟨_, route_eq_ok_iff.mpr ⟨⟨frontClean, named, frontShort⟩, rfl⟩⟩

/-- The way of what begins a path is the beginning of its way. -/
theorem way_suffix_of_begins {front path : Path} (begins : front.Begins path) :
    front.way <:+ path.way := by
  obtain ⟨rest, text, ends⟩ := begins
  cases rest with
  | nil => exact ⟨[], by simp [way, segments, text]⟩
  | cons c behind =>
    obtain rfl : c = '/' := by simpa using ends
    rw [way, way, segments_of_text text, List.reverse_append, List.filterMap_append]
    exact List.suffix_append _ _

/-- Whatever some first moves of a followed path lead to is the end of a path that begins it. -/
theorem exists_begins {path : Path} {route : Route} {outer : List Move}
    (followed : path.route = .ok route) (moves : outer ≠ []) (first : outer <:+ path.way) :
    ∃ front : Path, front.Begins path ∧ front.way = outer ∧ ∃ route, front.route = .ok route := by
  obtain ⟨inner, whole⟩ := first
  obtain ⟨later, earlier, segments, -, same⟩ := List.filterMap_eq_append_iff.mp whole.symm
  have someSegment : earlier.reverse ≠ [] := by
    intro none
    exact moves (by rw [← same, List.reverse_eq_nil_iff.mp none]; rfl)
  have firstSegments : earlier.reverse <+: path.segments := by
    refine ⟨later.reverse, ?_⟩
    rw [← List.reverse_append, ← segments, List.reverse_reverse]
  obtain ⟨front, rest, text, ends, own⟩ :=
    split_beginning '/' path.text.toList earlier.reverse someSegment firstSegments
  have frontWay : (Path.mk (String.ofList front)).way = outer := by
    rw [way, Path.segments, String.toList_ofList, own, List.reverse_reverse, same]
  have begins : (Path.mk (String.ofList front)).Begins path := ⟨rest, by simpa using text, ends⟩
  have named : String.ofList front ≠ "" := by
    intro empty
    exact moves (frontWay.symm.trans (way_of_empty empty))
  exact ⟨_, begins, frontWay, route_of_begins begins named followed⟩

end Path

end ComponentInstall.Disk
