import ComponentInstall.Json.Decoder
import ComponentInstall.Text.Blank

/-!
# Requests

A request names a component and says whether it is to be installed or uninstalled. It may also fix
the version, and it may name the package itself by an explicit source. An empty version or source
is the same as none, whichever way the request was made.

A request can be built step by step, or decoded from data. Decoding refuses an action that is
neither `Install` nor `Uninstall`, letter for letter. Only `validate` looks at the name, and all it
asks is that the name shows something.
-/

namespace ComponentInstall

open Json

/-- What is to be done with a component. -/
inductive Action
  | install
  | uninstall
deriving DecidableEq, Repr

/-- Why a request is refused. -/
inductive RequestError
  | missingName
  | invalidAction (text : String)
deriving DecidableEq, Repr

def RequestError.message : RequestError → String
  | .missingName => "Component name is required"
  | .invalidAction text =>
    "Invalid action: " ++ text ++ " (expected Install or Uninstall)"

namespace Action

/-- The one spelling of an action. -/
def text : Action → String
  | .install => "Install"
  | .uninstall => "Uninstall"

/-- The action of a spelling. -/
def ofText (text : String) : Except RequestError Action :=
  if text = "Install" then .ok .install
  else if text = "Uninstall" then .ok .uninstall
  else .error (.invalidAction text)

theorem ofText_text (action : Action) : ofText action.text = .ok action := by
  cases action <;> rfl

/-- An action as data is its spelling. -/
def decoder : Decoder Action :=
  Decoder.text.refine fun text => (ofText text).mapError RequestError.message

end Action

/-- A text, unless it is empty. -/
def unlessEmpty (text : String) : Option String := if text = "" then none else some text

/-- A request for one component. -/
structure Request where
  name : String
  version : Option String
  action : Action
  source : Option String
deriving DecidableEq, Repr

namespace Request

/-- A request that fixes neither the version nor the source. -/
def new (name : String) (action : Action) : Request := ⟨name, none, action, none⟩

/-- Fixes the version, or frees it if the text is empty. -/
def withVersion (request : Request) (version : String) : Request :=
  { request with version := unlessEmpty version }

/-- Fixes the source, or frees it if the text is empty. -/
def withSource (request : Request) (source : String) : Request :=
  { request with source := unlessEmpty source }

/-- Refuses a request whose name shows nothing. -/
def validate (request : Request) : Except RequestError Unit :=
  if Text.allBlank request.name then .error .missingName else .ok ()

/-- The fields of a request that have been seen. -/
structure Draft where
  name : Option String
  version : Option (Option String)
  action : Option Action
  source : Option (Option String)
deriving DecidableEq, Repr

/-- The request of a draft. Name and action must have been seen. -/
def Draft.finish (draft : Draft) : Except (Nat × String) Request :=
  match draft.name, draft.action with
  | none, _ => .error (0, "name")
  | some _, none => .error (2, "action")
  | some name, some action => .ok ⟨name, draft.version.join, action, draft.source.join⟩

/-- A text that may be absent, null or empty, all of which mean that it is not set. -/
def settable : Decoder (Option String) := Decoder.text.optional.map fun text => text.bind unlessEmpty

def form : Form Draft Request where
  name := "ComponentRequest"
  fields :=
    [ Decoder.text.field "name" Draft.name fun draft name => { draft with name := some name },
      settable.field "version" Draft.version fun draft version =>
        { draft with version := some version },
      Action.decoder.field "action" Draft.action fun draft action =>
        { draft with action := some action },
      settable.field "source" Draft.source fun draft source => { draft with source := some source } ]
  blank := ⟨none, none, none, none⟩
  finish := Draft.finish

def decoder : Decoder Request := form.decoder

end Request

end ComponentInstall
