import ComponentInstall.Disk.Walk

/-!
# A disk

A disk is a tree together with what may go wrong from outside: any call on any path can be made to
fail before it does anything. A call that is not made to fail does what the tree allows.

Every call gives its answer and the disk behind it. Only the tree of a disk ever changes.
-/

namespace ComponentInstall.Disk

/-- The calls that can be made to fail. -/
inductive Call
  | createFolders
  | isFolder
  | listNames
  | readText
  | writeText
  | append
  | removeFile
deriving DecidableEq, Repr

/-- A tree, and the refusals that are arranged for calls on paths. -/
structure State where
  tree : Tree
  faults : Call → Path → Option IoError

namespace State

/-- A disk on which nothing is made to fail. -/
def plain (tree : Tree) : State := ⟨tree, fun _ _ => none⟩

/-- The same disk with another tree. -/
def withTree (disk : State) (tree : Tree) : State := { disk with tree := tree }

/-- Makes the folder at a path and all that are missing on the way. There is nothing to make for an
empty path. -/
def createFolders (disk : State) (path : Path) : Except IoError Unit × State :=
  match disk.faults .createFolders path with
  | some refusal => (.error refusal, disk)
  | none =>
    if path.text = "" then (.ok (), disk)
    else match path.route with
      | .error refusal => (.error refusal, disk)
      | .ok route =>
        let (answer, tree) := disk.tree.makeWay route
        (answer, disk.withTree tree)

/-- Whether there is a folder at a path. There is none if that cannot be found out. -/
def isFolder (disk : State) (path : Path) : Bool :=
  match disk.faults .isFolder path with
  | some _ => false
  | none =>
    match path.route with
    | .error _ => false
    | .ok route => disk.tree.isFolder route

/-- The names in the folder at a path. -/
def listNames (disk : State) (path : Path) : Except IoError (List String) :=
  match disk.faults .listNames path with
  | some refusal => .error refusal
  | none => do disk.tree.list (← path.route)

/-- The text of the file at a path. -/
def readText (disk : State) (path : Path) : Except IoError String :=
  match disk.faults .readText path with
  | some refusal => .error refusal
  | none => do disk.tree.read (← path.route)

/-- The outcome of a call that changes the tree or fails. -/
def settle (disk : State) : Except IoError Tree → Except IoError Unit × State
  | .ok tree => (.ok (), disk.withTree tree)
  | .error refusal => (.error refusal, disk)

/-- Writes a text to the file at a path. -/
def writeText (disk : State) (path : Path) (text : String) : Except IoError Unit × State :=
  match disk.faults .writeText path with
  | some refusal => (.error refusal, disk)
  | none => disk.settle do disk.tree.write (← path.route) (.text text)

/-- Writes a text behind what the file at a path holds. The file is made unless it is there. -/
def append (disk : State) (path : Path) (text : String) : Except IoError Unit × State :=
  match disk.faults .append path with
  | some refusal => (.error refusal, disk)
  | none => disk.settle do disk.tree.append (← path.route) text

/-- Removes the file at a path. -/
def removeFile (disk : State) (path : Path) : Except IoError Unit × State :=
  match disk.faults .removeFile path with
  | some refusal => (.error refusal, disk)
  | none => disk.settle do disk.tree.removeFile (← path.route)

/-- Puts a file at a path, after making the folders around it. Nothing is made to fail. -/
def put (disk : State) (path : Path) (content : Content) : Except IoError Unit × State :=
  match path.route with
  | .error refusal => (.error refusal, disk)
  | .ok route =>
    match disk.tree.makeFolders route.outer with
    | (.error refusal, tree) => (.error refusal, disk.withTree tree)
    | (.ok (), tree) => (disk.withTree tree).settle (tree.write route content)

end State

end ComponentInstall.Disk
