import ComponentInstall.Version.Strict

/-!
# The latest version of a list

Published versions come as texts. Only strict versions take part in the choice, and when a beginning
is asked for, only those whose text begins with it. The greatest of them wins; of several texts that
denote the greatest version the last one in the list wins, and it is given in its own spelling.

The empty text stands for no choice. It is no strict version, so it is never a choice itself.
-/

namespace ComponentInstall.Version

/-- Whether a text begins with what is asked for. Asking for nothing allows every text. -/
def begins (wanted : Option String) (text : String) : Bool :=
  match wanted with
  | none => true
  | some beginning => beginning.toList.isPrefixOf text.toList

/-- A candidate together with the version it denotes, if it takes part in the choice. -/
def qualify (wanted : Option String) (candidate : String) : Option (String × Triple) :=
  if begins wanted candidate then (ofText candidate).map fun version => (candidate, version)
  else none

/-- The better of the best so far and a later candidate, which wins unless it is smaller. -/
def better (best : Option (String × Triple)) (later : String × Triple) : Option (String × Triple) :=
  match best with
  | none => some later
  | some earlier => if earlier.2 ≤ later.2 then some later else some earlier

/-- The winning candidate with its version. -/
def best (wanted : Option String) (candidates : List String) : Option (String × Triple) :=
  (candidates.filterMap (qualify wanted)).foldl better none

/-- The winning candidate, or the empty text if none takes part. -/
def latest (wanted : Option String) (candidates : List String) : String :=
  match best wanted candidates with
  | none => ""
  | some (candidate, _) => candidate

end ComponentInstall.Version
