import ComponentInstall.Location.Package
import ComponentInstall.Proofs.Location.Stretches
import ComponentInstall.Proofs.Text.Splitting

/-!
# Locations that tell what lies there

The location of a package ends in five segments behind the endpoint of its region. None of them is
encoded, but as long as none has a slash they can be told from the end, and so can the endpoint.

The endpoint tells the region. In one realm it is what the template makes of the region, and a template
with a placeholder makes different texts of different regions. Between the two realms it is a matter of
length: with the template that is used unless another one is given, an endpoint of the separate realm has
an odd number of characters more than one of the standard realm, apart from the region, which both have
twice.
-/

namespace ComponentInstall.Location

open ComponentInstall.Text

/-- What is between the two regions in an endpoint of a realm, unless another template is given. -/
def Partition.middle : Partition → List Char
  | .standard => ".amazonaws.com/amazon-ssm-".toList
  | .china => ".amazonaws.com.cn/amazon-ssm-".toList

/-- What is around the regions in an endpoint of a realm, unless another template is given. -/
def Partition.surroundings (partition : Partition) : List (List Char) :=
  ["https://s3.".toList, partition.middle, "/Components".toList]

theorem stretches_default :
    stretches defaultTemplate.toList = Partition.standard.surroundings := by decide +kernel

theorem toList_around (front middle back region : String) :
    (front ++ region ++ middle ++ region ++ back).toList =
      List.intercalate region.toList [front.toList, middle.toList, back.toList] := by
  simp [List.intercalate_cons_cons]

theorem toList_base_default (target : Instance) :
    (base defaultTemplate target).toList =
      List.intercalate target.region.toList (Partition.ofRegion target.region).surroundings := by
  rw [base]
  cases Partition.ofRegion target.region with
  | standard =>
    rw [← stretches_default]
    exact String.toList_ofList
  | china =>
    exact toList_around _ _ _ target.region

/-- Endpoints of the two realms differ in length, whatever their regions are. -/
theorem realms_differ (left right : List Char) :
    List.intercalate left Partition.standard.surroundings ≠
      List.intercalate right Partition.china.surroundings := by
  intro same
  have lengths := congrArg List.length same
  have standard : Partition.standard.middle.length = 26 := by decide +kernel
  have china : Partition.china.middle.length = 29 := by decide +kernel
  simp only [Partition.surroundings, length_intercalate, List.flatten_cons, List.flatten_nil,
    List.length_append, List.length_cons, List.length_nil, standard, china] at lengths
  omega

theorem region_of_base_default {left right : Instance}
    (same : base defaultTemplate left = base defaultTemplate right) : left.region = right.region := by
  have texts := congrArg String.toList same
  rw [toList_base_default, toList_base_default] at texts
  cases realmLeft : Partition.ofRegion left.region <;>
    cases realmRight : Partition.ofRegion right.region <;> rw [realmLeft, realmRight] at texts
  case standard.china => exact absurd texts (realms_differ _ _)
  case china.standard => exact absurd texts.symm (realms_differ _ _)
  all_goals exact String.toList_inj.mp (intercalate_injective (by decide) texts)

/-- A template that tells two regions apart: the default one, or any one that has a placeholder if
neither region belongs to the separate realm. -/
def Separates (template left right : String) : Prop :=
  template = defaultTemplate ∨
    placeholder <:+: template.toList ∧
      Partition.ofRegion left = .standard ∧ Partition.ofRegion right = .standard

/-- An endpoint has one region. -/
theorem region_of_base {template : String} {left right : Instance}
    (separates : Separates template left.region right.region)
    (same : base template left = base template right) : left.region = right.region := by
  rcases separates with rfl | ⟨held, standardLeft, standardRight⟩
  · exact region_of_base_default same
  · rw [base, base, standardLeft, standardRight, Partition.base, Partition.base, fill, fill,
      String.ofList_inj] at same
    exact String.toList_inj.mp (intercalate_injective (two_le_length_stretches held) same)

/-- The segments of a package location, the outermost first. -/
def segments (name version : String) (target : Instance) (file : String) : List String :=
  [name, target.platform, target.arch, version, file]

/-- One more segment is one more piece. -/
theorem split_append_segment (text : String) {segment : String} (free : '/' ∉ segment.toList) :
    split '/' (text ++ "/" ++ segment).toList = split '/' text.toList ++ [segment.toList] := by
  have slash : "/".toList = ['/'] := rfl
  rw [String.toList_append, String.toList_append, slash, List.append_assoc, List.singleton_append]
  exact split_append_piece text.toList free

/-- Behind the pieces of the endpoint come the segments. -/
theorem split_package {template name version file : String} {target : Instance}
    (free : ∀ segment ∈ segments name version target file, '/' ∉ segment.toList) :
    split '/' (package template name version target file).toList =
      split '/' (base template target).toList ++
        (segments name version target file).map String.toList := by
  simp only [segments, List.forall_mem_cons] at free
  obtain ⟨freeName, freePlatform, freeArch, freeVersion, freeFile, -⟩ := free
  rw [package, split_append_segment _ freeFile, split_append_segment _ freeVersion, folder,
    split_append_segment _ freeArch, split_append_segment _ freePlatform,
    split_append_segment _ freeName]
  simp [segments]

/-- Equal locations have the same endpoint and the same segments. -/
theorem base_and_segments_of_package {template name version file name' version' file' : String}
    {target target' : Instance}
    (free : ∀ segment ∈ segments name version target file, '/' ∉ segment.toList)
    (free' : ∀ segment ∈ segments name' version' target' file', '/' ∉ segment.toList)
    (same : package template name version target file =
      package template name' version' target' file') :
    base template target = base template target' ∧
      segments name version target file = segments name' version' target' file' := by
  have pieces := congrArg (fun text => split '/' text.toList) same
  simp only [split_package free, split_package free'] at pieces
  obtain ⟨endpoints, texts⟩ := List.append_inj' pieces rfl
  exact ⟨String.toList_inj.mp (split_injective '/' endpoints),
    (List.map_inj_right fun _ _ => String.toList_inj.mp).mp texts⟩

/-- What begins like an endpoint of the separate realm belongs to it. A region that is shorter than the
mark of that realm does not help, because the endpoint goes on with a dot behind the region. -/
theorem begins_like_china_iff (target : Instance) (rest : List Char) :
    "https://s3.cn-".toList <+: (base defaultTemplate target).toList ++ rest ↔
      Partition.ofRegion target.region = .china := by
  have front : "https://s3.cn-".toList = "https://s3.".toList ++ chinaMark := by decide
  have dotted (realm : Partition) : ∃ more, realm.middle = '.' :: more := by
    cases realm
    · exact ⟨"amazonaws.com/amazon-ssm-".toList, by decide +kernel⟩
    · exact ⟨"amazonaws.com.cn/amazon-ssm-".toList, by decide +kernel⟩
  obtain ⟨more, middle⟩ := dotted (Partition.ofRegion target.region)
  rw [toList_base_default, Partition.surroundings, List.intercalate_cons_cons,
    List.intercalate_cons_cons, middle, front]
  simp only [List.append_assoc, List.cons_append, List.prefix_append_right_inj]
  rw [prefix_append_cons_iff (by decide), Partition.ofRegion, ← List.isPrefixOf_iff_prefix]
  split <;> simp_all

/-- Locations tell what lies there: where the template tells the regions apart, equal locations of
packages without a slash in their segments are of the same region and have the same segments, and equal
endpoints are of the same region. With the default template it can be seen at the beginning of a location
whether it belongs to the separate realm. -/
theorem locations_unambiguous :
    (∀ template name version file name' version' file' (target target' : Instance),
      Separates template target.region target'.region →
      (∀ segment ∈ segments name version target file, '/' ∉ segment.toList) →
      (∀ segment ∈ segments name' version' target' file', '/' ∉ segment.toList) →
      package template name version target file = package template name' version' target' file' →
      target.region = target'.region ∧
        segments name version target file = segments name' version' target' file') ∧
    (∀ template (target target' : Instance), Separates template target.region target'.region →
      base template target = base template target' → target.region = target'.region) ∧
    ∀ name version file (target : Instance),
      ("https://s3.cn-".toList <+: (package defaultTemplate name version target file).toList ↔
        Partition.ofRegion target.region = .china) := by
  refine ⟨?_, fun _ _ _ separates same => region_of_base separates same, ?_⟩
  · intro template name version file name' version' file' target target' separates free free' same
    obtain ⟨endpoint, sameSegments⟩ := base_and_segments_of_package free free' same
    exact ⟨region_of_base separates endpoint, sameSegments⟩
  · intro name version file target
    obtain ⟨rest, whole⟩ : ∃ rest, (package defaultTemplate name version target file).toList =
        (base defaultTemplate target).toList ++ rest := by
      simp only [package, folder, String.toList_append, List.append_assoc]
      exact ⟨_, rfl⟩
    rw [whole]
    exact begins_like_china_iff target rest

/-- Two instances with versions of their platform of their own have the same location, and nothing that
it depends on differs between them. -/
theorem locations_unambiguous_of_own_template :
    let template := "mirror/\x7bRegion\x7d/\x7bRegion\x7d"
    let older := { Instance.unknown with region := "eu-west-1", platformVersion := "10" }
    let newer := { Instance.unknown with region := "eu-west-1", platformVersion := "11" }
    Separates template older.region newer.region ∧
      package template "PVDriver" "1.0.0" older "PVDriver.zip" =
        package template "PVDriver" "1.0.0" newer "PVDriver.zip" ∧
      older.region = newer.region ∧
        segments "PVDriver" "1.0.0" older "PVDriver.zip" =
          segments "PVDriver" "1.0.0" newer "PVDriver.zip" := by
  intro template older newer
  have separates : Separates template older.region newer.region :=
    Or.inr ⟨⟨"mirror/".toList, "/\x7bRegion\x7d".toList, by decide⟩, by decide, by decide⟩
  have same : package template "PVDriver" "1.0.0" older "PVDriver.zip" =
      package template "PVDriver" "1.0.0" newer "PVDriver.zip" := rfl
  exact ⟨separates, same,
    locations_unambiguous.1 _ _ _ _ _ _ _ _ _ separates (by decide) (by decide) same⟩

end ComponentInstall.Location
