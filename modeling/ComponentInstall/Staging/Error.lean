import ComponentInstall.Disk.Path

/-!
# Why a staging step fails

Each step that touches the disk names the path it was working on and keeps the disk's own refusal as
its cause.
-/

namespace ComponentInstall.Staging

open ComponentInstall.Disk

/-- Why a staging step fails. -/
inductive StagingError
  | createFolder (path : Path) (cause : IoError)
  | writeMarker (path : Path) (cause : IoError)
  | removeMarker (path : Path) (cause : IoError)
deriving DecidableEq, Repr

namespace StagingError

def cause : StagingError → IoError
  | .createFolder _ cause | .writeMarker _ cause | .removeMarker _ cause => cause

def message : StagingError → String
  | .createFolder path cause =>
    "Failed to create component folder " ++ path.quoted ++ ": " ++ cause.message
  | .writeMarker path cause =>
    "Failed to write installed marker " ++ path.quoted ++ ": " ++ cause.message
  | .removeMarker path cause =>
    "Failed to remove installed marker " ++ path.quoted ++ ": " ++ cause.message

end StagingError

end ComponentInstall.Staging
