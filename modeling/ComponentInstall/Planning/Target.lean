import ComponentInstall.Feed.Listing
import ComponentInstall.Request
import ComponentInstall.Version.Latest

/-!
# Which version a request is about

A request that fixes its version is about that version. A request that names its package by a source
bypasses everything that is published, so without a version it is about none. Any other request is
about the latest published version. An uninstall that does not fix a version is about the installed
one when there is one, whatever its source.

Only in one case the candidate source has to be asked, and `Target` says when.
-/

namespace ComponentInstall.Planning

open Feed

/-- Why there is no version to act on. -/
inductive ResolveError
  | noVersionFound (name : String)
  | sourceWithoutVersion (name : String)
  | listing (cause : ListingError)
deriving DecidableEq, Repr

namespace ResolveError

def message : ResolveError → String
  | .noVersionFound name => "No version found for component " ++ name
  | .sourceWithoutVersion name =>
    "Component " ++ name ++ " has an explicit source but no version"
  | .listing cause => "Failed to list versions: " ++ cause.message

/-- What lies behind the error, from the outer to the inner reason. -/
def reasons : ResolveError → List String
  | .listing cause => cause.message :: cause.reasons
  | _ => []

end ResolveError

/-- What a request is about before any source is asked. -/
inductive Target
  | settled (version : String)
  | unsettled
  | latest
deriving DecidableEq, Repr

/-- What a request is about by itself. -/
def targetOf (request : Request) : Target :=
  match request.version with
  | some version => .settled version
  | none => if request.source.isSome then .unsettled else .latest

/-- What a request is about when a version may be installed. -/
def targetBeside (installed : String) (request : Request) : Target :=
  if request.action = .uninstall ∧ request.version = none ∧ installed ≠ "" then .settled installed
  else targetOf request

/-- A question to the candidate source. -/
structure Query where
  name : String
  target : Instance
deriving DecidableEq, Repr

/-- The questions that must be asked before a target is a version. -/
def Target.queries (about : Target) (request : Request) (target : Instance) : List Query :=
  match about with
  | .latest => [⟨request.name, target⟩]
  | _ => []

/-- The version of a target. Published versions are narrowed to those that begin as wanted. -/
def Target.resolve (about : Target) (source : CandidateSource) (wanted : Option String)
    (request : Request) (target : Instance) : Except ResolveError String :=
  match about with
  | .settled version => .ok version
  | .unsettled => .error (.sourceWithoutVersion request.name)
  | .latest =>
    match source request.name target with
    | .error cause => .error (.listing cause)
    | .ok candidates =>
      if Version.latest wanted candidates = "" then .error (.noVersionFound request.name)
      else .ok (Version.latest wanted candidates)

end ComponentInstall.Planning
