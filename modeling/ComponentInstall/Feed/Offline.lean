import ComponentInstall.Feed.Manifest

/-!
# A machine without a network

Nothing can be reached from a machine without a network. A host that is given by number is known, and
so is the machine itself, so the attempt to connect to it fails. Every other name would have to be
looked up first, and that fails.
-/

namespace ComponentInstall.Feed

open Url

/-- Whether a host need not be looked up. -/
def isKnown (host : String) : Bool :=
  host.toList.head? = some '[' || endsInNumber host.toList || host = "localhost"

/-- The network of a machine that has none. -/
def offline : Network := fun address =>
  .unreachable <| "client error (Connect)" ::
    if address.host.any isKnown then ["tcp connect error", "Network is unreachable (os error 101)"]
    else
      ["dns error",
        "failed to lookup address information: Temporary failure in name resolution"]

end ComponentInstall.Feed
