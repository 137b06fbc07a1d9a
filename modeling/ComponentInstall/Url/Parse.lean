import ComponentInstall.Url.Address
import ComponentInstall.Url.Folders
import ComponentInstall.Url.Host

/-!
# Reading addresses

A location becomes an address before anything is sent to it. Blanks and controls around it fall
away, and so do tabs and line breaks anywhere in it. It must begin with a scheme. The schemes of the
web are special: any number of slashes or backslashes may lead to their host, which must not be
empty, and backslashes separate the folders of their path too. A port that is the usual one of the
scheme falls away.

A file may be on a host, unless that is this machine. A drive is always on this machine.

Any other address has a host only behind two slashes, and the host may be empty. Without one its path
is a list of folders if it begins with a slash, and otherwise plain text.
-/

namespace ComponentInstall.Url

open ComponentInstall.Text

/-- The usual port of a scheme of the web. -/
def usualPort (scheme : List Char) : Option Nat :=
  if scheme = "http".toList ∨ scheme = "ws".toList then some 80
  else if scheme = "https".toList ∨ scheme = "wss".toList then some 443
  else if scheme = "ftp".toList then some 21
  else none

/-- A scheme of the web. It has a usual port. -/
def isSpecial (scheme : List Char) : Bool := (usualPort scheme).isSome

/-- A control or a blank, which may stand around an address. -/
def isMargin (c : Char) : Bool := decide (c.toNat ≤ 0x20)

/-- A location without what may stand around and inside an address without being part of it. -/
def clean (cs : List Char) : List Char :=
  let inner := (cs.dropWhile isMargin).reverse.dropWhile isMargin |>.reverse
  inner.filter fun c => !(c = '\t' || c = '\n' || c = '\r')

/-- A character that a scheme may hold behind its first letter. -/
def isSchemeChar (c : Char) : Bool := c.isAlphanum || c = '+' || c = '-' || c = '.'

/-- The scheme of an address, in lower case, and what follows the colon behind it. -/
def scheme? (cs : List Char) : Option (List Char × List Char) :=
  match cs.takeWhile isSchemeChar, cs.dropWhile isSchemeChar with
  | first :: name, ':' :: rest =>
    if first.isAlpha then some ((first :: name).map Char.toLower, rest) else none
  | _, _ => none

/-- A character that ends the authority. -/
def endsAuthority (special : Bool) (c : Char) : Bool := isSeparator special c || c = '?' || c = '#'

/-- What stands before and behind the last at-sign. -/
def splitAt (cs : List Char) : Option (List Char) × List Char :=
  let behind := (cs.reverse.takeWhile (· ≠ '@')).reverse
  (if '@' ∈ cs then some (cs.take (cs.length - behind.length - 1)) else none, behind)

/-- The credentials that stand before an at-sign. A password follows the first colon; an empty one
is none. -/
def credentialsOf (cs : List Char) : Option Credentials :=
  let name := cs.takeWhile (· ≠ ':')
  let password := (cs.dropWhile (· ≠ ':')).drop 1
  if name = [] ∧ password = [] then none
  else
    some ⟨String.ofList (encode credentialSet name),
      if password = [] then none else some (String.ofList (encode credentialSet password))⟩

/-- The host of an authority and the text of its port, which a colon outside brackets begins. -/
def splitPort : Bool → List Char → List Char × Option (List Char)
  | _, [] => ([], none)
  | inside, c :: rest =>
    if c = ':' ∧ inside = false then ([], some rest)
    else
      let inside := if c = '[' then true else if c = ']' then false else inside
      let (host, port) := splitPort inside rest
      (c :: host, port)

/-- A port, unless it is empty or the usual one. -/
def portOf (usual : Option Nat) (digits : List Char) : Except UrlError (Option Nat) :=
  if !digits.all isDigit ∨ 65535 < value digits then .error .invalidPort
  else if digits = [] ∨ some (value digits) = usual then .ok none
  else .ok (some (value digits))

/-- What precedes the query and the fragment, and these two. -/
def splitParts (cs : List Char) : List Char × Option (List Char) × Option (List Char) :=
  let before := cs.takeWhile (· ≠ '#')
  let fragment := match cs.dropWhile (· ≠ '#') with
    | [] => none
    | _ :: fragment => some fragment
  let query := match before.dropWhile (· ≠ '?') with
    | [] => none
    | _ :: query => some query
  (before.takeWhile (· ≠ '?'), query, fragment)

/-- An address from its parts, of which query and fragment are still to be encoded. -/
def assemble (scheme : List Char) (special : Bool) (credentials : Option Credentials)
    (host : Option (List Char)) (port : Option Nat) (path : List Char)
    (query fragment : Option (List Char)) : Address where
  scheme := String.ofList scheme
  credentials := credentials
  host := host.map String.ofList
  port := port
  path := String.ofList path
  query := query.map fun query =>
    String.ofList (encode (if special then specialQuerySet else querySet) query)
  fragment := fragment.map fun fragment => String.ofList (encode fragmentSet fragment)

/-- The path behind an authority. A backslash may end the port of any address, even where it begins
a name. -/
def pathBehind (special : Bool) (cs : List Char) : List Char :=
  match cs with
  | [] => if special then ['/'] else []
  | c :: rest => pathOf special (if isSeparator special c then rest else c :: rest)

/-- An address from what follows the slashes before its authority. An at-sign with nothing around it
must end the address. -/
def withAuthority (scheme : List Char) (special : Bool) (cs : List Char) :
    Except UrlError Address := do
  let (user, place) := splitAt (cs.takeWhile (!endsAuthority special ·))
  let rest := cs.dropWhile (!endsAuthority special ·)
  let (host, port) := splitPort false place
  let credentials := user.bind credentialsOf
  if host = [] ∧ (special ∨ port.isSome ∨ credentials.isSome) then throw .emptyHost
  if place = [] ∧ user = some [] ∧ rest ≠ [] then throw .emptyHost
  let host ← if special then specialHost host else otherHost host
  let (digits, behind) := match port with
    | none => ([], [])
    | some port => (port.takeWhile (· ≠ '\\'), port.dropWhile (· ≠ '\\'))
  let port ← portOf (usualPort scheme) digits
  let (before, query, fragment) := splitParts (behind ++ rest)
  return assemble scheme special credentials (some host) port (pathBehind special before)
    query fragment

/-- The host of a file and what follows it, from what follows the two slashes before the host. A
drive is no host, so its path begins there. -/
def fileHost (cs : List Char) : Except UrlError (Option (List Char) × List Char) := do
  let name := cs.takeWhile (!isSeparator true ·)
  if isDrive name then return (none, cs)
  let host ← if name = [] then pure none else some <$> specialHost name
  let rest := cs.dropWhile (!isSeparator true ·)
  if host.all (· = "localhost".toList) then return (none, rest) else return (host, rest.drop 1)

/-- An address of a file. -/
def ofFile (scheme cs : List Char) : Except UrlError Address := do
  let (before, query, fragment) := splitParts cs
  let (host, rest) ← match before with
    | a :: b :: rest =>
      if isSeparator true a && isSeparator true b then fileHost rest
      else pure (none, if isSeparator true a then b :: rest else before)
    | _ => pure (none, before.dropWhile (isSeparator true ·))
  let way := wayOfFile rest
  return assemble scheme true none (if way.onDrive then none else host) none (way.path true)
    query fragment

/-- An address without an authority. A path of folders that begins with two slashes is told apart
from an authority by a dot. -/
def withoutAuthority (scheme cs : List Char) : Address :=
  let (before, query, fragment) := splitParts cs
  let path := match before with
    | '/' :: rest =>
      match pathOf false rest with
      | '/' :: '/' :: tail => '/' :: '.' :: '/' :: '/' :: tail
      | path => path
    | _ => encode controlSet before
  assemble scheme false none none none path query fragment

/-- The address that a location is. -/
def parse (location : String) : Except UrlError Address :=
  match scheme? (clean location.toList) with
  | none => .error .relative
  | some (scheme, rest) =>
    if isSpecial scheme then
      withAuthority scheme true (rest.dropWhile (isSeparator true ·))
    else if scheme = "file".toList then ofFile scheme rest
    else match rest with
      | '/' :: '/' :: rest => withAuthority scheme false rest
      | _ => .ok (withoutAuthority scheme rest)

end ComponentInstall.Url
