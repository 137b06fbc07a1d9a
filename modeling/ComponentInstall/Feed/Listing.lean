import ComponentInstall.Instance
import ComponentInstall.Url.Parse

/-!
# Asking for the published versions

A candidate source lists the versions of a component as they were published, in the order in which
they were published; nothing is checked or left out. It can fail because it cannot be reached,
because it does not know the component, because its answer makes no sense, or because no answer ever
comes.
-/

namespace ComponentInstall.Feed

open Url

/-- Why a request got no reply. -/
inductive NetworkError
  /-- The location is no address. -/
  | noAddress (cause : UrlError)
  /-- The address is not one of the web. -/
  | foreignScheme (address : Address)
  /-- The address holds what no request can. -/
  | unsendable (address : Address)
  /-- The host could not be reached; the reasons go from the outer to the inner one. -/
  | unreachable (address : Address) (reasons : List String)
deriving DecidableEq, Repr

namespace NetworkError

def message : NetworkError → String
  | .noAddress _ => "builder error"
  | .foreignScheme address | .unsendable address => "builder error for url (" ++ address.text ++ ")"
  | .unreachable address _ => "error sending request for url (" ++ address.text ++ ")"

/-- What lies behind the error, from the outer to the inner reason. -/
def reasons : NetworkError → List String
  | .noAddress cause => [cause.message]
  | .foreignScheme _ => ["URL scheme is not allowed"]
  | .unsendable _ => ["Parsed Url is not a valid Uri"]
  | .unreachable _ reasons => reasons

end NetworkError

/-- Why a candidate source lists nothing. -/
inductive ListingError
  | network (cause : NetworkError)
  | notFound (name : String)
  | invalidResponse (text : String)
  | noAnswer
deriving DecidableEq, Repr

namespace ListingError

def message : ListingError → String
  | .network cause => "Network error: " ++ cause.message
  | .notFound name => "Component not found: " ++ name
  | .invalidResponse text => "Invalid response: " ++ text
  | .noAnswer => "deadline has elapsed"

/-- What lies behind the error, from the outer to the inner reason. -/
def reasons : ListingError → List String
  | .network cause => cause.message :: cause.reasons
  | .notFound _ | .invalidResponse _ | .noAnswer => []

end ListingError

/-- A source of versions: what it answers for a component and an instance. -/
abbrev CandidateSource := String → Instance → Except ListingError (List String)

end ComponentInstall.Feed
