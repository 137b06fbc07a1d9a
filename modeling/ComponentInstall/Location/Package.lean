import ComponentInstall.Instance
import ComponentInstall.Location.Region

/-!
# Where the files of a component are

Below the endpoint of its region a component has a folder, with one folder in it for each platform
and processor. There lie the manifest, which lists the versions, and a folder for each version with
its package. Names and versions go into a location as they are, without any encoding.
-/

namespace ComponentInstall.Location

/-- The name of the manifest of a component. -/
def manifestName (name : String) : String := name ++ ".json"

/-- The name of a package of a component. -/
def packageName (name : String) (target : Instance) : String := name ++ "." ++ target.compressFormat

/-- The endpoint for an instance. -/
def base (template : String) (target : Instance) : String :=
  (Partition.ofRegion target.region).base target.region template

/-- The folder of a component for an instance. -/
def folder (template name : String) (target : Instance) : String :=
  base template target ++ "/" ++ name ++ "/" ++ target.platform ++ "/" ++ target.arch

/-- The location of the manifest of a component. -/
def manifest (template name : String) (target : Instance) : String :=
  folder template name target ++ "/" ++ manifestName name

/-- The location of a file of one version of a component. -/
def package (template name version : String) (target : Instance) (file : String) : String :=
  folder template name target ++ "/" ++ version ++ "/" ++ file

end ComponentInstall.Location
