import ComponentInstall.Json.Decoder

/-!
# The instance that a component is for

The caller describes the managed instance: its region, its platform and processor, and the archive
format of packages. Every part is a text that is used as it is, and a part that is not given is
empty. The version of the platform and its label are carried along but decide nothing.
-/

namespace ComponentInstall

open Json

/-- What is known of an instance. -/
structure Instance where
  region : String
  platform : String
  platformVersion : String
  arch : String
  installerName : String
  compressFormat : String
deriving DecidableEq, Repr

namespace Instance

/-- An instance of which nothing is known. -/
def unknown : Instance := ⟨"", "", "", "", "", ""⟩

/-- The parts of an instance that have been seen. -/
structure Draft where
  region : Option String
  platform : Option String
  platformVersion : Option String
  arch : Option String
  installerName : Option String
  compressFormat : Option String
deriving DecidableEq, Repr

/-- The instance of a draft. A part that has not been seen is empty. -/
def Draft.finish (draft : Draft) : Except (Nat × String) Instance :=
  .ok ⟨draft.region.getD "", draft.platform.getD "", draft.platformVersion.getD "",
    draft.arch.getD "", draft.installerName.getD "", draft.compressFormat.getD ""⟩

def form : Form Draft Instance where
  name := "InstanceContext"
  fields :=
    [ Decoder.text.field "region" Draft.region fun draft text => { draft with region := some text },
      Decoder.text.field "platform" Draft.platform fun draft text =>
        { draft with platform := some text },
      Decoder.text.field "platformVersion" Draft.platformVersion fun draft text =>
        { draft with platformVersion := some text },
      Decoder.text.field "arch" Draft.arch fun draft text => { draft with arch := some text },
      Decoder.text.field "installerName" Draft.installerName fun draft text =>
        { draft with installerName := some text },
      Decoder.text.field "compressFormat" Draft.compressFormat fun draft text =>
        { draft with compressFormat := some text } ]
  blank := ⟨none, none, none, none, none, none⟩
  finish := Draft.finish

def decoder : Decoder Instance := form.decoder

end Instance

end ComponentInstall
