import ComponentInstall.Disk.Tree
import ComponentInstall.Feed.Listing
import ComponentInstall.Feed.Status
import ComponentInstall.Json.Bytes
import ComponentInstall.Json.Decoder
import ComponentInstall.Location.Package

/-!
# The manifest feed

The feed publishes a manifest for every component, a JSON document that may list versions. A lookup
sends one request for it. The status decides first: an unknown component is told apart from any
other refusal, and only a reply of success is decoded. A manifest without a list of versions
publishes none.

A network says what becomes of a request for an address. It may also stay silent, and then no answer
comes in the time that a lookup may take.
-/

namespace ComponentInstall.Feed

open Json Url Disk

/-- A reply of a host. -/
structure Reply where
  status : Nat
  body : Content
deriving DecidableEq, Repr

/-- What becomes of a request. -/
inductive Delivery
  | replied (reply : Reply)
  | unreachable (reasons : List String)
  | silent
deriving DecidableEq, Repr

/-- What becomes of a request for each address. -/
abbrev Network := Address → Delivery

/-- The versions of a manifest, when they have been seen. -/
structure ManifestDraft where
  versions : Option (List String)
deriving DecidableEq, Repr

def manifestForm : Form ManifestDraft (List String) where
  name := "ComponentManifest"
  fields :=
    [Decoder.text.list.field "versions" ManifestDraft.versions fun _ versions => ⟨some versions⟩]
  blank := ⟨none⟩
  finish draft := .ok (draft.versions.getD [])

/-- The document that a reply holds. -/
def Reply.document (reply : Reply) : String :=
  if isBodiless reply.status then ""
  else match reply.body with
    | .text s => s
    | .binary bytes => documentOfBytes bytes

/-- The versions that a reply's body publishes, unless it is no manifest. -/
def manifestVersions (reply : Reply) : Option (List String) :=
  (manifestForm.decoder.ofText reply.document).toOption

/-- The outcome of a lookup whose request got a reply. -/
def readReply (name : String) (address : Address) (reply : Reply) :
    Except ListingError (List String) :=
  if reply.status = 404 then .error (.notFound name)
  else if isSuccess reply.status then
    match manifestVersions reply with
    | some versions => .ok versions
    | none =>
      .error (.invalidResponse ("error decoding response body for url (" ++ address.text ++ ")"))
  else .error (.invalidResponse ("Unexpected status: " ++ statusText reply.status))

/-- A character of a host that a request can hold. -/
def isSendable (c : Char) : Bool :=
  c.isAlphanum || c ∈ "!$&\x27()*+,-.:;=[]_~".toList

/-- Whether a request can be sent to an address of the web. Its length fits in 16 bits. -/
def canSend (address : Address) : Bool :=
  address.host.all (·.toList.all isSendable) && decide (address.text.utf8ByteSize < 65535)

/-- The address to which a request for a location goes, if one can be sent. Credentials are no part
of it. -/
def addressOf (location : String) : Except NetworkError Address :=
  match (parse location).map Address.withoutCredentials with
  | .error cause => .error (.noAddress cause)
  | .ok address =>
    if address.scheme ≠ "http" ∧ address.scheme ≠ "https" then .error (.foreignScheme address)
    else if canSend address then .ok address
    else .error (.unsendable address)

/-- What a lookup of a component finds at the location of its manifest. -/
def lookup (network : Network) (name location : String) : Except ListingError (List String) :=
  match addressOf location with
  | .error cause => .error (.network cause)
  | .ok address =>
    match network address with
    | .replied reply => readReply name address reply
    | .unreachable reasons => .error (.network (.unreachable address reasons))
    | .silent => .error .noAnswer

/-- The feed as a source of versions. -/
def source (template : String) (network : Network) : CandidateSource := fun name target =>
  lookup network name (Location.manifest template name target)

/-- The requests that reach a host when a location is looked up. -/
def receivedFor (network : Network) (location : String) : List Address :=
  match addressOf location with
  | .error _ => []
  | .ok address =>
    match network address with
    | .unreachable _ => []
    | _ => [address]

/-- The requests that reach a host when a component is looked up. -/
def received (template : String) (network : Network) (name : String) (target : Instance) :
    List Address :=
  receivedFor network (Location.manifest template name target)

end ComponentInstall.Feed
