/-!
# Trees of folders and files

A tree assigns an entry to some places. A place is the list of the names that lead to it, the
innermost first, so the folder around a place is its tail; the empty place is the root. The root is
always a folder, and whatever has an entry lies in a folder: a tree carries the proof of that. There are
no symbolic links.

`find` is the whole content of a tree. `add` puts an entry into a folder, and `remove` takes a file
away; both leave the tree alone where the result would not be a tree, and both change `find` at a
single place.
-/

namespace ComponentInstall.Disk

/-- What a file holds: text, or bytes that are no text. -/
inductive Content
  | text (s : String)
  | binary (bytes : List UInt8)
deriving DecidableEq, Repr

/-- The content that some bytes are. -/
def Content.ofBytes (bytes : ByteArray) : Content :=
  match String.fromUTF8? bytes with
  | some s => .text s
  | none => .binary bytes.toList

/-- A content with a text behind it. Bytes that are no text do not become one by that. -/
def Content.append : Content → String → Content
  | .text s, more => .text (s ++ more)
  | .binary bytes, more => .binary (bytes ++ more.toUTF8.data.toList)

theorem Content.append_append (content : Content) (first second : String) :
    (content.append first).append second = content.append (first ++ second) := by
  cases content with
  | text s => simp [append, String.append_assoc]
  | binary bytes => simp [append, String.toUTF8]

/-- What a place of a tree can hold. -/
inductive Entry
  | folder
  | file (content : Content)
deriving DecidableEq, Repr

/-- The names that lead to a place, the innermost first. -/
abbrev Place := List String

/-- The entry of a place in a list of entries, where the root is a folder. -/
def findIn (entries : List (Place × Entry)) : Place → Option Entry
  | [] => some .folder
  | place => entries.lookup place

/-- A tree of folders and files. -/
structure Tree where
  entries : List (Place × Entry)
  grounded : ∀ name place, findIn entries (name :: place) ≠ none → findIn entries place = some .folder

namespace Tree

/-- The tree that has nothing but its root. -/
def empty : Tree := ⟨[], by intro name place held; exact absurd rfl held⟩

/-- The entry of a place. -/
def find (tree : Tree) (place : Place) : Option Entry := findIn tree.entries place

@[simp] theorem find_root (tree : Tree) : tree.find [] = some .folder := rfl

/-- Whatever has an entry lies in a folder. -/
theorem find_outer (tree : Tree) (name : String) (place : Place)
    (held : tree.find (name :: place) ≠ none) : tree.find place = some .folder :=
  tree.grounded name place held

theorem findIn_cons (entries : List (Place × Entry)) (name : String) (outer place : Place)
    (entry : Entry) :
    findIn ((name :: outer, entry) :: entries) place =
      if place = name :: outer then some entry else findIn entries place := by
  cases place with
  | nil => simp [findIn]
  | cons other rest =>
    simp only [findIn, List.lookup_cons]
    by_cases same : other :: rest = name :: outer
    · simp [same]
    · have differs : (other :: rest == name :: outer) = false := by simpa using same
      simp [same, differs]

theorem lookup_filter_ne (entries : List (Place × Entry)) (removed place : Place) :
    (entries.filter (·.1 ≠ removed)).lookup place =
      if place = removed then none else entries.lookup place := by
  induction entries with
  | nil => simp
  | cons head rest inductionHypothesis =>
    obtain ⟨key, entry⟩ := head
    by_cases isRemoved : key = removed
    · subst isRemoved
      simp only [ne_eq, not_true_eq_false, decide_false, Bool.false_eq_true, not_false_eq_true,
        List.filter_cons_of_neg, inductionHypothesis, List.lookup_cons]
      by_cases same : place = key
      · simp [same]
      · have differs : (place == key) = false := by simpa using same
        simp [same, differs]
    · simp only [ne_eq, isRemoved, not_false_eq_true, decide_true, List.filter_cons_of_pos,
        List.lookup_cons, inductionHypothesis]
      by_cases same : place = key
      · subst same
        simp [isRemoved]
      · have differs : (place == key) = false := by simpa using same
        simp [differs]

theorem findIn_filter_ne (entries : List (Place × Entry)) (name : String) (outer place : Place) :
    findIn (entries.filter (·.1 ≠ name :: outer)) place =
      if place = name :: outer then none else findIn entries place := by
  cases place with
  | nil => simp [findIn]
  | cons other rest => simp only [findIn, lookup_filter_ne]

theorem cons_ne_self (name : String) (place : Place) : place ≠ name :: place := by
  intro same
  have := congrArg List.length same
  simp at this

/-- Puts an entry into the folder `outer`. It may replace a file, but no folder. -/
def add (tree : Tree) (name : String) (outer : Place) (entry : Entry) : Tree :=
  if fits : tree.find outer = some .folder ∧ tree.find (name :: outer) ≠ some .folder then
    ⟨(name :: outer, entry) :: tree.entries.filter (·.1 ≠ name :: outer), by
      intro inner place held
      rw [findIn_cons, findIn_filter_ne] at held ⊢
      by_cases isNew : inner :: place = name :: outer
      · obtain ⟨_, isOuter⟩ := List.cons.inj isNew
        subst isOuter
        rw [if_neg (cons_ne_self name place), if_neg (cons_ne_self name place)]
        exact fits.1
      · rw [if_neg isNew, if_neg isNew] at held
        have folder := tree.grounded inner place held
        by_cases isPlace : place = name :: outer
        · subst isPlace
          exact absurd folder fits.2
        · rw [if_neg isPlace, if_neg isPlace]
          exact folder⟩
  else tree

/-- Takes a file away. -/
def remove (tree : Tree) (name : String) (outer : Place) : Tree :=
  if fits : tree.find (name :: outer) ≠ some .folder then
    ⟨tree.entries.filter (·.1 ≠ name :: outer), by
      intro inner place held
      rw [findIn_filter_ne] at held ⊢
      by_cases isRemoved : inner :: place = name :: outer
      · simp [isRemoved] at held
      · rw [if_neg isRemoved] at held
        have folder := tree.grounded inner place held
        by_cases isPlace : place = name :: outer
        · subst isPlace
          exact absurd folder fits
        · rw [if_neg isPlace]
          exact folder⟩
  else tree

theorem find_add (tree : Tree) (name : String) (outer place : Place) (entry : Entry)
    (inFolder : tree.find outer = some .folder)
    (free : tree.find (name :: outer) ≠ some .folder) :
    (tree.add name outer entry).find place =
      if place = name :: outer then some entry else tree.find place := by
  rw [add, dif_pos ⟨inFolder, free⟩]
  simp only [find]
  rw [findIn_cons, findIn_filter_ne]
  by_cases same : place = name :: outer <;> simp [same]

theorem find_remove (tree : Tree) (name : String) (outer place : Place)
    (free : tree.find (name :: outer) ≠ some .folder) :
    (tree.remove name outer).find place =
      if place = name :: outer then none else tree.find place := by
  rw [remove, dif_pos free]
  simp only [find]
  rw [findIn_filter_ne]

/-- The names of the entries directly inside a folder. -/
def names (tree : Tree) (place : Place) : List String :=
  tree.entries.filterMap fun (inner, _) =>
    match inner with
    | [] => none
    | name :: outer => if outer = place then some name else none

end Tree

end ComponentInstall.Disk
