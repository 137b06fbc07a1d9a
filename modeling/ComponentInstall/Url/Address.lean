import ComponentInstall.Text.Numeral
import ComponentInstall.Url.Encoding

/-!
# Addresses

An address has a scheme and a path. It may have a host, with a port and with the credentials of a
user, and it may have a query and a fragment. All parts are kept in percent encoding.

`text` writes an address as it is shown, and `target` the part of it that is sent to the host.
-/

namespace ComponentInstall.Url

open ComponentInstall.Text

/-- The credentials of a user. One of name and password is not empty. -/
structure Credentials where
  name : String
  password : Option String
deriving DecidableEq, Repr

namespace Credentials

/-- Credentials as they stand before a host. -/
def text (credentials : Credentials) : String :=
  credentials.name
    ++ (match credentials.password with
      | some password => ":" ++ password
      | none => "")
    ++ "@"

/-- Whether the credentials can be told to the host in a header, because the name is a text, and if
it is empty, the password is one. -/
def isReadable (credentials : Credentials) : Bool :=
  let isText (part : String) : Bool := (decode? part.toList).isSome
  isText credentials.name && (credentials.name != "" || credentials.password.any isText)

end Credentials

/-- An absolute address. -/
structure Address where
  scheme : String
  credentials : Option Credentials
  host : Option String
  port : Option Nat
  path : String
  query : Option String
  fragment : Option String
deriving DecidableEq, Repr

namespace Address

/-- An address as it is shown. -/
def text (address : Address) : String :=
  let credentials := match address.credentials with
    | some credentials => credentials.text
    | none => ""
  let host := match address.host with
    | some host => "//" ++ credentials ++ host
    | none => if address.scheme = "file" then "//" else ""
  let port := match address.port with
    | some port => ":" ++ decimal port
    | none => ""
  let query := match address.query with
    | some query => "?" ++ query
    | none => ""
  let fragment := match address.fragment with
    | some fragment => "#" ++ fragment
    | none => ""
  address.scheme ++ ":" ++ host ++ port ++ address.path ++ query ++ fragment

/-- What is asked of the host: path and query. -/
def target (address : Address) : String :=
  match address.query with
  | some query => address.path ++ "?" ++ query
  | none => address.path

/-- An address whose credentials are left to a header, if they can be told there. -/
def withoutCredentials (address : Address) : Address :=
  if address.credentials.any Credentials.isReadable then { address with credentials := none }
  else address

end Address

end ComponentInstall.Url
