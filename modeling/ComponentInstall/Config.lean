import ComponentInstall.Disk.Calls
import ComponentInstall.Json.Decoder
import ComponentInstall.Location.Region

/-!
# Configuration

A configuration fixes the endpoint template, the directory that holds staging folders and markers,
how long a lookup may take, and the format of the log. Every part has a default, so any subset of
the parts is a configuration, and unknown parts are ignored.

Staging folders and markers have separate roots below the same base directory. Unless one is
configured, the base is the data directory of the user, which the environment determines.
-/

namespace ComponentInstall

open Json Disk

/-- What the environment says about the user's directories. -/
structure Environment where
  home : Path
  xdgDataHome : Option Path
deriving DecidableEq, Repr

namespace Environment

/-- The data directory of the user for this program. -/
def dataDirectory (environment : Environment) : Path :=
  (environment.xdgDataHome.getD (environment.home.join ⟨".local/share"⟩)).join
    ⟨"component-resolver"⟩

/-- The log. -/
def logPath (environment : Environment) : Path :=
  environment.dataDirectory.join ⟨"component-resolver.log"⟩

/-- The home directory of the user: what `HOME` says, or else that of the user's account. -/
def homeOf (home : Option String) (account : Option Path) : Option Path :=
  (home.filter (· ≠ "")).map Disk.Path.mk <|> account

/-- The environment of a process in which `HOME` and `XDG_DATA_HOME` may be unset. A user without any
home directory has the data below the working directory. -/
def ofVariables (home xdgDataHome : Option String) (account : Option Path) : Environment :=
  match homeOf home account with
  | some home => ⟨home, xdgDataHome.map Disk.Path.mk⟩
  | none => ⟨⟨"."⟩, some ⟨xdgDataHome.getD "."⟩⟩

/-- `XDG_DATA_HOME` goes before the home directory, and that before the working directory. -/
theorem dataDirectory_ofVariables (home xdgDataHome : Option String) (account : Option Path) :
    (ofVariables home xdgDataHome account).dataDirectory =
      ((xdgDataHome.map Disk.Path.mk <|> (homeOf home account).map (·.join ⟨".local/share"⟩)).getD
        ⟨"."⟩).join ⟨"component-resolver"⟩ := by
  rw [ofVariables]
  cases homeOf home account <;> cases xdgDataHome <;> rfl

end Environment

/-- A configuration. -/
structure Config where
  componentUrl : String
  stagingDir : Option Path
  fetchTimeout : Nat
  logAsJson : Bool
deriving DecidableEq, Repr

namespace Config

/-- The configuration that nothing is said about. A lookup may take thirty seconds. -/
def default : Config := ⟨Location.defaultTemplate, none, 30000, false⟩

/-- The log format, when it has been seen. -/
structure LogDraft where
  json : Option Bool
deriving DecidableEq, Repr

def logForm : Form LogDraft Bool where
  name := "LogConfig"
  fields := [Decoder.boolean.field "json" LogDraft.json fun _ json => ⟨some json⟩]
  blank := ⟨none⟩
  finish draft := .ok (draft.json.getD default.logAsJson)

/-- The parts of a configuration that have been seen. -/
structure Draft where
  componentUrl : Option String
  stagingDir : Option (Option Path)
  fetchTimeout : Option Nat
  logAsJson : Option Bool
deriving DecidableEq, Repr

/-- The configuration of a draft. A part that has not been seen has its default. -/
def Draft.finish (draft : Draft) : Except (Nat × String) Config :=
  .ok ⟨draft.componentUrl.getD default.componentUrl, draft.stagingDir.getD default.stagingDir,
    draft.fetchTimeout.getD default.fetchTimeout, draft.logAsJson.getD default.logAsJson⟩

def form : Form Draft Config where
  name := "ResolverConfig"
  fields :=
    [ Decoder.text.field "componentUrl" Draft.componentUrl fun draft text =>
        { draft with componentUrl := some text },
      (Decoder.path.map Disk.Path.mk).optional.field "stagingDir" Draft.stagingDir fun draft path =>
        { draft with stagingDir := some path },
      Decoder.word.field "fetchTimeoutMs" Draft.fetchTimeout fun draft timeout =>
        { draft with fetchTimeout := some timeout },
      logForm.decoder.field "log" Draft.logAsJson fun draft json =>
        { draft with logAsJson := some json } ]
  blank := ⟨none, none, none, none⟩
  finish := Draft.finish

def decoder : Decoder Config := form.decoder

/-- The directory that holds both roots. -/
def base (config : Config) (environment : Environment) : Path :=
  config.stagingDir.getD environment.dataDirectory

/-- The root of the staging folders. -/
def stagingRoot (config : Config) (environment : Environment) : Path :=
  (config.base environment).join ⟨"components"⟩

/-- The root of the markers, beside that of the staging folders. -/
def installedRoot (config : Config) (environment : Environment) : Path :=
  (config.base environment).join ⟨"installed"⟩

end Config

/-- Why a configuration is not loaded. -/
inductive ConfigError
  | read (path : Path) (cause : IoError)
  | parse (path : Path) (fault : Fault)
deriving DecidableEq, Repr

namespace ConfigError

/-- The wording of what lies behind an error. -/
def cause : ConfigError → String
  | .read _ cause => cause.message
  | .parse _ fault => fault.message

def message (error : ConfigError) : String :=
  match error with
  | .read path _ => "Failed to read config " ++ path.quoted ++ ": " ++ error.cause
  | .parse path _ => "Invalid config " ++ path.quoted ++ ": " ++ error.cause

end ConfigError

namespace Config

/-- Reads a configuration from a file. -/
def loadM {m : Type → Type} [Monad m] [MonadDisk m] (path : Path) : m (Except ConfigError Config) := do
  match ← MonadDisk.readText path with
  | .error cause => return .error (.read path cause)
  | .ok text => return (decoder.ofText text).mapError (.parse path)

/-- The configuration in a file on a disk. -/
def load (path : Path) (disk : State) : Except ConfigError Config :=
  ((loadM path : OnDisk _).run disk).1

theorem load_eq (path : Path) (disk : State) :
    load path disk =
      match disk.readText path with
      | .error cause => .error (.read path cause)
      | .ok text => (decoder.ofText text).mapError (.parse path) := by
  simp only [load, loadM, OnDisk.run_bind, OnDisk.run_readText]
  cases disk.readText path <;> rfl

/-- Reading a configuration leaves the disk as it is. -/
theorem run_loadM (path : Path) (disk : State) :
    (loadM path : OnDisk _).run disk = (load path disk, disk) := by
  simp only [load, loadM, OnDisk.run_bind, OnDisk.run_readText]
  cases disk.readText path <;> rfl

end Config

end ComponentInstall
