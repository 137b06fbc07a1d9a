import ComponentInstall.Text.Split

/-!
# Regions and their endpoints

The region of an instance decides where components are published. Regions that begin with `cn-`
belong to a realm of their own, whose endpoint is fixed. All others share a template, in which the
placeholder stands for the region.

A template falls into the stretches between its placeholders, found from the left. The region goes
between the stretches, so every placeholder is replaced once and the region itself is never searched
for placeholders.
-/

namespace ComponentInstall.Location

/-- What stands for the region in a template. -/
def placeholder : List Char := ['\x7b', 'R', 'e', 'g', 'i', 'o', 'n', '\x7d']

/-- The template that is used unless another one is given. -/
def defaultTemplate : String :=
  "https://s3.\x7bRegion\x7d.amazonaws.com/amazon-ssm-\x7bRegion\x7d/Components"

/-- Puts a character before the first of some stretches. -/
def extend (c : Char) : List (List Char) → List (List Char)
  | [] => [[c]]
  | stretch :: rest => (c :: stretch) :: rest

/-- The stretches of a template between its placeholders. -/
def stretches : List Char → List (List Char)
  | [] => [[]]
  | '\x7b' :: 'R' :: 'e' :: 'g' :: 'i' :: 'o' :: 'n' :: '\x7d' :: rest => [] :: stretches rest
  | c :: rest => extend c (stretches rest)

/-- A template with the region in every place that is held for it. -/
def fill (region template : String) : String :=
  String.ofList (List.intercalate region.toList (stretches template.toList))

/-- The realms in which components are published. -/
inductive Partition
  | standard
  | china
deriving DecidableEq, Repr

/-- How the regions of the separate realm begin. -/
def chinaMark : List Char := ['c', 'n', '-']

/-- The realm of a region. -/
def Partition.ofRegion (region : String) : Partition :=
  if chinaMark.isPrefixOf region.toList then .china else .standard

/-- The endpoint of a region in a realm. Only the standard realm consults the template. -/
def Partition.base (partition : Partition) (region template : String) : String :=
  match partition with
  | .standard => fill region template
  | .china => "https://s3." ++ region ++ ".amazonaws.com.cn/amazon-ssm-" ++ region ++ "/Components"

end ComponentInstall.Location
