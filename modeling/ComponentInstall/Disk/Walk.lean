import ComponentInstall.Disk.Path
import ComponentInstall.Disk.Tree

/-!
# Following ways through a tree

`reach` follows moves from folder to folder: every name must be that of a folder, and the first move
that fails from the outside decides the refusal. Two dots at the root stay there.

The operations of a file system follow. Each first reaches the folder in which its target lies and
then looks at the ending of the way. Making folders tries the innermost one first and turns to the
folder around it only when something on the way is missing, so a refusal can leave the outer folders
made; what is there already is never changed.
-/

namespace ComponentInstall.Disk

/-- The number of bytes that a name may have. -/
def nameBound : Nat := 255

/-- A name that no entry can have because of its length. -/
def isTooLong (name : String) : Bool := decide (nameBound < name.utf8ByteSize)

namespace Tree

/-- The folder that a move leads to. -/
def step (tree : Tree) (place : Place) : Move → Except IoError Place
  | .up => .ok place.tail
  | .into name =>
    if isTooLong name then .error .nameTooLong
    else match tree.find (name :: place) with
      | some .folder => .ok (name :: place)
      | some (.file _) => .error .notFolder
      | none => .error .missing

/-- The folder that some moves lead to, last move first. -/
def reach (tree : Tree) : List Move → Except IoError Place
  | [] => .ok []
  | move :: outer => do tree.step (← tree.reach outer) move

/-- The place that a way leads to, and its entry. -/
def resolve (tree : Tree) (route : Route) : Except IoError (Place × Entry) := do
  let place ← tree.reach route.outer
  match route.ending with
  | .folder => return (place, .folder)
  | .entry name closed =>
    if isTooLong name then throw .nameTooLong
    else match tree.find (name :: place) with
      | none => throw .missing
      | some .folder => return (name :: place, .folder)
      | some (.file content) =>
        if closed then throw .notFolder else return (name :: place, .file content)

/-- Whether a way leads to a folder. -/
def isFolder (tree : Tree) (route : Route) : Bool :=
  match tree.resolve route with
  | .ok (_, .folder) => true
  | _ => false

/-- The names in the folder that a way leads to. -/
def list (tree : Tree) (route : Route) : Except IoError (List String) := do
  match ← tree.resolve route with
  | (place, .folder) => return tree.names place
  | (_, .file _) => throw .notFolder

/-- The text of the file that a way leads to. -/
def read (tree : Tree) (route : Route) : Except IoError String := do
  match ← tree.resolve route with
  | (_, .folder) => throw .isFolder
  | (_, .file (.text s)) => return s
  | (_, .file (.binary _)) => throw .notText

/-- Makes a folder where a move leads. -/
def makeFolder (tree : Tree) (outer : List Move) (move : Move) : Except IoError Tree := do
  let place ← tree.reach outer
  match move with
  | .up => throw .present
  | .into name =>
    if isTooLong name then throw .nameTooLong
    else match tree.find (name :: place) with
      | some _ => throw .present
      | none => return tree.add name place .folder

/-- Whether some moves lead from folder to folder. -/
def leadsToFolder (tree : Tree) (moves : List Move) : Bool := (tree.reach moves).isOk

/-- Makes the folder that some moves lead to, and all that are missing on the way. -/
def makeFolders (tree : Tree) : List Move → Except IoError Unit × Tree
  | [] => (.ok (), tree)
  | move :: outer =>
    match tree.makeFolder outer move with
    | .ok made => (.ok (), made)
    | .error refusal =>
      if refusal.kind = .notFound then
        match tree.makeFolders outer with
        | (.error refusal, around) => (.error refusal, around)
        | (.ok (), around) =>
          match around.makeFolder outer move with
          | .ok made => (.ok (), made)
          | .error refusal =>
            if around.leadsToFolder (move :: outer) then (.ok (), around)
            else (.error refusal, around)
      else if tree.leadsToFolder (move :: outer) then (.ok (), tree)
      else (.error refusal, tree)

/-- Makes the folder that a way leads to. A way that ends at a folder by itself is only followed;
if something on it is missing, the folders around its last one are made first. -/
def makeWay (tree : Tree) (route : Route) : Except IoError Unit × Tree :=
  match route.ending with
  | .entry name _ => tree.makeFolders (.into name :: route.outer)
  | .folder =>
    match tree.reach route.outer with
    | .ok _ => (.ok (), tree)
    | .error refusal =>
      if refusal.kind = .notFound then
        match tree.makeFolders route.outer.tail with
        | (.error refusal, around) => (.error refusal, around)
        | (.ok (), around) =>
          match around.reach route.outer with
          | .ok _ => (.ok (), around)
          | .error refusal => (.error refusal, around)
      else (.error refusal, tree)

/-- Writes the file that a way leads to, which need not be there yet. -/
def write (tree : Tree) (route : Route) (content : Content) : Except IoError Tree := do
  let place ← tree.reach route.outer
  match route.ending with
  | .folder => throw .isFolder
  | .entry name closed =>
    if closed then throw .isFolder
    else if isTooLong name then throw .nameTooLong
    else match tree.find (name :: place) with
      | some .folder => throw .isFolder
      | _ => return tree.add name place (.file content)

/-- Writes behind what the file holds that a way leads to, which need not be there yet. -/
def append (tree : Tree) (route : Route) (text : String) : Except IoError Tree :=
  match tree.resolve route with
  | .ok (_, .file content) => tree.write route (content.append text)
  | _ => tree.write route (.text text)

/-- Removes the file that a way leads to. -/
def removeFile (tree : Tree) (route : Route) : Except IoError Tree := do
  let place ← tree.reach route.outer
  match route.ending with
  | .folder => throw .isFolder
  | .entry name closed =>
    if isTooLong name then throw .nameTooLong
    else match tree.find (name :: place) with
      | none => throw .missing
      | some .folder => throw .isFolder
      | some (.file _) => if closed then throw .notFolder else return tree.remove name place

end Tree

end ComponentInstall.Disk
