import ComponentInstall.Domain.Name
import ComponentInstall.Text.Split
import ComponentInstall.Url.Encoding

/-!
# Hosts

The host of a special address is a name or a numeric address. Percent encoding in a name is undone,
and the name is kept as it is written in ASCII. A name whose last label is a number is an address of
four bytes, which may be written in one to four numbers of base ten, eight or sixteen, and is kept
with four decimal ones. Eight groups between brackets are an address of sixteen bytes; its longest
run of zero groups is kept as two colons.

The host of any other address is kept as it is, apart from percent encoding.
-/

namespace ComponentInstall.Url

open ComponentInstall.Text

/-- Why a text is no address. -/
inductive UrlError
  | emptyHost
  | invalidName
  | invalidCharacter
  | invalidPort
  | invalidIpv4
  | invalidIpv6
  | relative
deriving DecidableEq, Repr

def UrlError.message : UrlError → String
  | .emptyHost => "empty host"
  | .invalidName => "invalid international domain name"
  | .invalidCharacter => "invalid domain character"
  | .invalidPort => "invalid port number"
  | .invalidIpv4 => "invalid IPv4 address"
  | .invalidIpv6 => "invalid IPv6 address"
  | .relative => "relative URL without a base"

/-- A character that no host may hold, because it structures an address. -/
def isStructural (c : Char) : Bool :=
  c ∈ ['\x00', '\t', '\n', '\r', ' ', '#', '/', ':', '<', '>', '?', '@', '[', '\\', ']', '^', '|']

/-- The value of digits of a base, of which none must be foreign to it. -/
def valueIn (base : Nat) : Nat → List Char → Option Nat
  | sum, [] => some sum
  | sum, c :: rest => do
    let digit ← hexValue? c
    if digit < base then valueIn base (base * sum + digit) rest else none

/-- A number of an address of four bytes: base sixteen behind `0x`, base eight behind another zero.
An empty number is refused, but nothing behind `0x` is zero. -/
def ipv4Number (cs : List Char) : Option Nat :=
  match cs with
  | [] => none
  | '0' :: 'x' :: digits | '0' :: 'X' :: digits => valueIn 16 0 digits
  | '0' :: c :: digits => valueIn 8 0 (c :: digits)
  | _ => valueIn 10 0 cs

/-- The labels of a name without an empty last one. -/
def labels (cs : List Char) : List (List Char) :=
  match (split '.' cs).reverse with
  | [] :: second :: rest => (second :: rest).reverse
  | reversed => reversed.reverse

/-- Whether the last label of a name is a number, which makes the name an address. -/
def endsInNumber (cs : List Char) : Bool :=
  match (labels cs).getLast? with
  | none => false
  | some last => (last ≠ [] && last.all isDigit) || match last with
    | '0' :: 'x' :: _ | '0' :: 'X' :: _ => (ipv4Number last).isSome
    | _ => false

/-- The four bytes of an address from its numbers. The last number fills all bytes that are left. -/
def ipv4Value : Nat → List Nat → Option Nat
  | _, [] => none
  | left, [last] => if last < Nat.pow 256 left then some last else none
  | left, first :: rest => do
    if 255 < first then none
    else return first * Nat.pow 256 (left - 1) + (← ipv4Value (left - 1) rest)

/-- An address of four bytes. -/
def ipv4 (cs : List Char) : Except UrlError (List Char) :=
  let parts := labels cs
  match (parts.mapM ipv4Number).bind fun numbers =>
      if 4 < numbers.length then none else ipv4Value 4 numbers with
  | none => .error .invalidIpv4
  | some value =>
    let byte (n : Nat) := (decimal (value / Nat.pow 256 n % 256)).toList
    .ok (List.intercalate ['.'] [byte 3, byte 2, byte 1, byte 0])

/-- A group of an address of sixteen bytes. -/
def ipv6Group (cs : List Char) : Option Nat :=
  if cs = [] ∨ 4 < cs.length then none else valueIn 16 0 cs

/-- The groups of one side of the two colons. The last of them may be an address of four bytes. -/
def ipv6Groups (cs : List Char) : Option (List Nat) :=
  if cs = [] then some []
  else
    let parts := split ':' cs
    match parts.getLast? with
    | none => none
    | some last =>
      if '.' ∈ last then do
        let numbers ← (split '.' last).mapM fun part =>
          if part ≠ [] ∧ part.all isDigit ∧ value part < 256 ∧ (part.length = 1 ∨ part.head? ≠ some '0')
          then some (value part) else none
        let groups ← parts.dropLast.mapM ipv6Group
        match numbers with
        | [a, b, c, d] => return groups ++ [256 * a + b, 256 * c + d]
        | _ => none
      else parts.mapM ipv6Group

/-- A text around the first two colons in it. -/
def aroundColons : List Char → Option (List Char × List Char)
  | ':' :: ':' :: rest => some ([], rest)
  | c :: rest => (aroundColons rest).map fun (left, right) => (c :: left, right)
  | [] => none

/-- The eight groups of an address of sixteen bytes. Two colons stand for at least one group. -/
def ipv6Value (cs : List Char) : Option (List Nat) :=
  match aroundColons cs with
  | none => do
    let groups ← ipv6Groups cs
    if groups.length = 8 then return groups else none
  | some (left, right) => do
    let left ← if '.' ∈ left then none else ipv6Groups left
    let right ← ipv6Groups right
    if left.length + right.length < 8 then
      return left ++ List.replicate (8 - left.length - right.length) 0 ++ right
    else none

/-- The length of the run of zero groups at the beginning of some groups. -/
def zeroRun (groups : List Nat) : Nat := (groups.takeWhile (· = 0)).length

/-- The place and length of the first longest run of zero groups. -/
def longestRun : Nat → List Nat → Nat × Nat
  | _, [] => (0, 0)
  | place, group :: rest =>
    let here := zeroRun (group :: rest)
    let later := longestRun (place + 1) rest
    if later.2 ≤ here then (place, here) else later

/-- Groups with a colon between each two. -/
def joinGroups (groups : List Nat) : List Char :=
  List.intercalate [':'] (groups.map (Nat.toDigits 16))

/-- An address of sixteen bytes between brackets. -/
def ipv6 (cs : List Char) : Except UrlError (List Char) :=
  match ipv6Value cs with
  | none => .error .invalidIpv6
  | some groups =>
    let (place, run) := longestRun 0 groups
    let written :=
      if run < 2 then joinGroups groups
      else joinGroups (groups.take place) ++ [':', ':'] ++ joinGroups (groups.drop (place + run))
    .ok ('[' :: (written ++ [']']))

/-- The host of a special address. -/
def specialHost (cs : List Char) : Except UrlError (List Char) :=
  match cs with
  | [] => .error .emptyHost
  | '[' :: inner =>
    if inner.getLast? = some ']' then ipv6 inner.dropLast else .error .invalidIpv6
  | _ =>
    match (decode? cs).bind Domain.ascii? with
    | none => .error .invalidName
    | some [] => .error .emptyHost
    | some name => if endsInNumber name then ipv4 name else .ok name

/-- The host of any other address. -/
def otherHost (cs : List Char) : Except UrlError (List Char) :=
  match cs with
  | '[' :: inner =>
    if inner.getLast? = some ']' then ipv6 inner.dropLast else .error .invalidIpv6
  | _ => if cs.any isStructural then .error .invalidCharacter else .ok (encode controlSet cs)

end ComponentInstall.Url
