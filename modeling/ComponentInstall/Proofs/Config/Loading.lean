import ComponentInstall.Config
import ComponentInstall.Proofs.Json.Literals
import ComponentInstall.Proofs.Json.Places

/-!
# A configuration is laid over the defaults

A file that holds an object is a configuration if each of the four keys that is there has a value of the
right form. Then each part of the configuration is what the value at its key says, and a part without its
key is the default. The format of the log is such a record again, with one key, and may also be given as a
list with at most one truth value.

So the members of the object, and those of the log in it, can be put in any order, and unknown ones can
come and go: the configuration stays the same, and so does whether there is one.
-/

namespace ComponentInstall.Config

open Json Grammar Disk

/-- What the text at a key says, or the default if the key is not there. -/
inductive Overlay {β : Type} (tells : List Char → β → Prop) (default : β) : Option (List Char) → β → Prop
  | absent : Overlay tells default none default
  | given {value : List Char} {b : β} (said : tells value b) : Overlay tells default (some value) b

/-- A directory is given as a text, and `null` says that there is none. -/
def Directory : Rule (Option Path) := fun input directory rest =>
  Null input rest ∧ directory = none ∨ ∃ text, Quoted input text rest ∧ directory = some ⟨text⟩

/-- A value says whether the log is written as JSON: an object whose one known member is a truth value, if
it is there, or a list with at most one truth value. -/
inductive SaysFormat (value : List Char) : Bool → Prop
  | object {members : List (String × List Char)} {json : Bool} (writes : Writes value members)
      (overlay : Overlay (Truth · · []) default.logAsJson (members.lookup "json") json) :
      SaysFormat value json
  | nothing (lists : Lists value []) : SaysFormat value default.logAsJson
  | element {element : List Char} {json : Bool} (lists : Lists value [element])
      (said : Truth element json []) : SaysFormat value json

/-- A configuration is what the members of an object say, laid over the defaults. -/
structure Overlays (members : List (String × List Char)) (config : Config) : Prop where
  componentUrl : Overlay (Quoted · · []) default.componentUrl (members.lookup "componentUrl")
    config.componentUrl
  stagingDir : Overlay (Directory · · []) default.stagingDir (members.lookup "stagingDir")
    config.stagingDir
  fetchTimeout : Overlay (Whole · · []) default.fetchTimeout (members.lookup "fetchTimeoutMs")
    config.fetchTimeout
  log : Overlay SaysFormat default.logAsJson (members.lookup "log") config.logAsJson

/-- The value of a key is of the right form, if the key is there. -/
def Fits {β : Type} (tells : List Char → β → Prop) (found : Option (List Char)) : Prop :=
  ∀ value, found = some value → ∃ b, tells value b

/-- The known members of an object have values of the right form. -/
structure Admissible (members : List (String × List Char)) : Prop where
  componentUrl : Fits (Quoted · · []) (members.lookup "componentUrl")
  stagingDir : Fits (Directory · · []) (members.lookup "stagingDir")
  fetchTimeout : Fits (Whole · · []) (members.lookup "fetchTimeoutMs")
  log : Fits SaysFormat (members.lookup "log")

/-- An object that is given as the format of the log does not repeat its known key. -/
def UnrepeatedLog (value : List Char) : Prop :=
  ∀ members, Writes value members → logForm.Distinct members

/-- No known key is repeated, neither in an object nor in the format of the log in it. -/
structure Unrepeated (members : List (String × List Char)) : Prop where
  distinct : form.Distinct members
  log : ∀ value, members.lookup "log" = some value → UnrepeatedLog value

section

variable {β : Type} {tells : List Char → β → Prop} {default : β} {found : Option (List Char)}

theorem overlay_iff {b : β} :
    Overlay tells default found b ↔ ∃ told, Form.Told tells found told ∧ told.getD default = b := by
  constructor
  · rintro (_ | said)
    · exact ⟨none, .absent, rfl⟩
    · exact ⟨some b, .given said, rfl⟩
  · rintro ⟨_, (_ | said), rfl⟩
    · exact .absent
    · exact .given said

theorem exists_overlay_iff : (∃ b, Overlay tells default found b) ↔ Fits tells found := by
  constructor
  · rintro ⟨b, (_ | said)⟩ value ⟨⟩
    exact ⟨b, said⟩
  · intro fits
    cases found with
    | none => exact ⟨default, .absent⟩
    | some value =>
      obtain ⟨b, said⟩ := fits value rfl
      exact ⟨b, .given said⟩

end

theorem exists_overlays_iff {members : List (String × List Char)} :
    (∃ config, Overlays members config) ↔ Admissible members := by
  constructor
  · rintro ⟨config, url, directory, timeout, log⟩
    exact ⟨exists_overlay_iff.mp ⟨_, url⟩, exists_overlay_iff.mp ⟨_, directory⟩,
      exists_overlay_iff.mp ⟨_, timeout⟩, exists_overlay_iff.mp ⟨_, log⟩⟩
  · rintro ⟨url, directory, timeout, log⟩
    obtain ⟨componentUrl, url⟩ := exists_overlay_iff.mpr url
    obtain ⟨stagingDir, directory⟩ := exists_overlay_iff.mpr directory
    obtain ⟨fetchTimeout, timeout⟩ := exists_overlay_iff.mpr timeout
    obtain ⟨logAsJson, log⟩ := exists_overlay_iff.mpr log
    exact ⟨⟨componentUrl, stagingDir, fetchTimeout, logAsJson⟩, url, directory, timeout, log⟩

/-- The place of the truth value in the format of the log. -/
def jsonPlace : Place LogDraft where
  Content := Bool
  key := "json"
  decoder := .boolean
  rule := Truth
  get := LogDraft.json
  set _ json := ⟨some json⟩

theorem placed_logForm : logForm.Placed [jsonPlace] where
  fields_eq := rfl
  nodup := by decide
  sound := by
    simp only [List.mem_singleton, forall_eq]
    exact ⟨Decoder.follows_boolean, .truth, fun _ _ => rfl⟩
  blank := by
    simp only [List.mem_singleton, forall_eq]
    rfl
  kept := by
    simp only [List.mem_singleton, forall_eq]
    exact fun differs => absurd rfl differs
  ext := by
    simp only [List.mem_singleton, forall_eq]
    exact fun {draft other} same => congrArg LogDraft.mk same

def urlPlace : Place Draft where
  Content := String
  key := "componentUrl"
  decoder := .text
  rule := Quoted
  get := Draft.componentUrl
  set draft text := { draft with componentUrl := some text }

def directoryPlace : Place Draft where
  Content := Option Path
  key := "stagingDir"
  decoder := (Decoder.path.map Disk.Path.mk).optional
  rule := Directory
  get := Draft.stagingDir
  set draft path := { draft with stagingDir := some path }

def timeoutPlace : Place Draft where
  Content := Nat
  key := "fetchTimeoutMs"
  decoder := .word
  rule := Whole
  get := Draft.fetchTimeout
  set draft timeout := { draft with fetchTimeout := some timeout }

def logPlace : Place Draft where
  Content := Bool
  key := "log"
  decoder := logForm.decoder
  rule := Record logForm (Place.values [jsonPlace])
  get := Draft.logAsJson
  set draft json := { draft with logAsJson := some json }

def places : List (Place Draft) := [urlPlace, directoryPlace, timeoutPlace, logPlace]

/-- A directory is a text that may be absent, taken for a path. -/
theorem directory_iff (input : List Char) (directory : Option Path) (rest : List Char) :
    (Null input rest ∧ directory = none ∨
      ∃ path, (∃ text, Quoted input text rest ∧ Disk.Path.mk text = path) ∧ directory = some path) ↔
      Directory input directory rest := by
  simp [Directory]

theorem forall_places_iff {P : Place Draft → Prop} :
    (∀ place ∈ places, P place) ↔ P urlPlace ∧ P directoryPlace ∧ P timeoutPlace ∧ P logPlace := by
  simp only [places, List.forall_mem_cons, List.not_mem_nil, false_implies, implies_true, and_true]

theorem follows_directory : (Decoder.path.map Disk.Path.mk).optional.reader.Follows Directory := by
  refine (Decoder.follows_optional ((Decoder.follows_textNamed "path string").map Disk.Path.mk)
    ?_ ?_).congr directory_iff
  · simp only [Quoted, pastGaps_pastGaps, implies_true]
  · rintro input path rest ⟨text, ⟨behind, quote, -⟩, -⟩
    simp [quote]

theorem sound_places : ∀ place ∈ places, place.Sound := by
  have directory : Directory.Independent :=
    (Rule.Independent.quoted.map Disk.Path.mk).optional.congr directory_iff
  exact forall_places_iff.mpr
    ⟨⟨Decoder.follows_textNamed "a string", .quoted, fun _ _ => rfl⟩,
      ⟨follows_directory, directory, fun _ _ => rfl⟩,
      ⟨Decoder.follows_word, .whole, fun _ _ => rfl⟩,
      ⟨placed_logForm.follows_reader, .record placed_logForm.independent, fun _ _ => rfl⟩⟩

theorem placed_form : form.Placed places where
  fields_eq := rfl
  nodup := by decide
  sound := sound_places
  blank := forall_places_iff.mpr ⟨rfl, rfl, rfl, rfl⟩
  kept := by
    intro place member other otherMember differs draft content
    simp only [places, List.mem_cons, List.not_mem_nil, or_false] at member otherMember
    rcases member with rfl | rfl | rfl | rfl <;> rcases otherMember with rfl | rfl | rfl | rfl <;>
      first | rfl | exact absurd rfl differs
  ext := by
    rintro ⟨url, directory, timeout, log⟩ ⟨urlToo, directoryToo, timeoutToo, logToo⟩ same
    obtain ⟨rfl, rfl, rfl, rfl⟩ := forall_places_iff.mp same
    rfl

/-- What a draft of the format comes to. -/
theorem logForm_finish_iff {draft : LogDraft} {json : Bool} :
    logForm.finish draft = .ok json ↔ draft.json.getD default.logAsJson = json := by
  simp [logForm]

theorem tells_logForm_iff {members : List (String × List Char)} {draft : LogDraft} :
    logForm.Tells [jsonPlace] members draft ↔
      logForm.Distinct members ∧ Form.Told (Truth · · []) (members.lookup "json") draft.json := by
  simp only [Form.Tells, List.mem_singleton, forall_eq]
  rfl

/-- A list fills the one place of the format with its one element, if it has one. -/
theorem fills_logForm_iff {elements : List (List Char)} {draft : LogDraft} :
    Form.Fills (Place.putsText [jsonPlace]) logForm.fields logForm.blank elements draft ↔
      elements = [] ∧ draft.json = none ∨
        ∃ element json, elements = [element] ∧ Truth element json [] ∧ draft.json = some json := by
  constructor
  · rintro (_ | ⟨put, later⟩)
    · exact .inl ⟨rfl, rfl⟩
    · obtain ⟨place, member, -, json, said, rfl⟩ := put
      obtain rfl := List.mem_singleton.mp member
      cases later
      exact .inr ⟨_, json, rfl, said, rfl⟩
  · obtain ⟨held⟩ := draft
    rintro (⟨rfl, rfl⟩ | ⟨element, json, rfl, said, rfl⟩)
    · exact .all
    · exact .more ⟨jsonPlace, List.mem_singleton_self _, rfl, json, said, rfl⟩ .all

/-- The format of the log is decoded of its own text. -/
theorem ofText_logForm_iff {value : List Char} {json : Bool} :
    logForm.decoder.ofText (String.ofList value) = .ok json ↔
      UnrepeatedLog value ∧ SaysFormat value json := by
  rw [placed_logForm.ofText_eq_ok_iff, String.toList_ofList]
  simp only [tells_logForm_iff, fills_logForm_iff, logForm_finish_iff]
  constructor
  · rintro (⟨members, draft, writes, ⟨distinct, told⟩, finished⟩ |
      ⟨elements, draft, lists, ⟨rfl, held⟩ | ⟨element, said, rfl, truth, held⟩, finished⟩)
    · refine ⟨fun others writesToo => writes.unique writesToo ▸ distinct, ?_⟩
      exact .object writes (overlay_iff.mpr ⟨draft.json, told, finished⟩)
    · refine ⟨fun others writes => absurd lists writes.not_lists, ?_⟩
      rw [held] at finished
      exact finished ▸ .nothing lists
    · refine ⟨fun others writes => absurd lists writes.not_lists, ?_⟩
      rw [held] at finished
      exact finished ▸ .element lists truth
  · rintro ⟨unrepeated, ⟨writes, overlay⟩ | lists | ⟨lists, truth⟩⟩
    · obtain ⟨held, told, finished⟩ := overlay_iff.mp overlay
      exact .inl ⟨_, ⟨held⟩, writes, ⟨unrepeated _ writes, told⟩, finished⟩
    · exact .inr ⟨[], ⟨none⟩, lists, .inl ⟨rfl, rfl⟩, rfl⟩
    · exact .inr ⟨_, ⟨some json⟩, lists, .inr ⟨_, json, rfl, truth, rfl⟩, rfl⟩

section

variable {members : List (String × List Char)} {draft : Draft} {config : Config}

theorem form_finish_iff : form.finish draft = .ok config ↔
    draft.componentUrl.getD default.componentUrl = config.componentUrl ∧
      draft.stagingDir.getD default.stagingDir = config.stagingDir ∧
      draft.fetchTimeout.getD default.fetchTimeout = config.fetchTimeout ∧
      draft.logAsJson.getD default.logAsJson = config.logAsJson := by
  cases config
  simp [form, Draft.finish]

theorem tells_form_iff : form.Tells places members draft ↔
    form.Distinct members ∧
      Form.Told (Quoted · · []) (members.lookup "componentUrl") draft.componentUrl ∧
      Form.Told (Directory · · []) (members.lookup "stagingDir") draft.stagingDir ∧
      Form.Told (Whole · · []) (members.lookup "fetchTimeoutMs") draft.fetchTimeout ∧
      Form.Told logPlace.Says (members.lookup "log") draft.logAsJson := by
  rw [Form.Tells, forall_places_iff]
  rfl

/-- What an object tells of the log is the format that stands there, if it does not repeat its key. -/
theorem told_log_iff {document : List Char} (writes : Writes document members) {json : Option Bool} :
    Form.Told logPlace.Says (members.lookup "log") json ↔
      (∀ value, members.lookup "log" = some value → UnrepeatedLog value) ∧
        Form.Told SaysFormat (members.lookup "log") json := by
  have alone {value : List Char} (found : members.lookup "log" = some value) (b : Bool) :
      logPlace.Says value b ↔ UnrepeatedLog value ∧ SaysFormat value b :=
    (placed_logForm.record_iff_ofText (writes.skipped found)).trans ofText_logForm_iff
  cases found : members.lookup "log" with
  | none =>
    constructor
    · rintro (_ | _)
      exact ⟨nofun, .absent⟩
    · rintro ⟨-, (_ | _)⟩
      exact .absent
  | some value =>
    simp only [Option.some.injEq, forall_eq']
    constructor
    · rintro (_ | said)
      obtain ⟨unrepeated, format⟩ := (alone found _).mp said
      exact ⟨unrepeated, .given format⟩
    · rintro ⟨unrepeated, (_ | format)⟩
      exact .given ((alone found _).mpr ⟨unrepeated, format⟩)

/-- An object is decoded to the configuration that it lays over the defaults. -/
theorem ofText_iff {text : String} (writes : Writes text.toList members) :
    decoder.ofText text = .ok config ↔ Unrepeated members ∧ Overlays members config := by
  have decoded : decoder.ofText text = .ok config ↔ _ := placed_form.ofText_of_writes writes
  rw [decoded]
  simp only [tells_form_iff, told_log_iff writes, form_finish_iff]
  constructor
  · rintro ⟨draft, ⟨distinct, url, directory, timeout, unrepeated, log⟩, finished⟩
    obtain ⟨urlIs, directoryIs, timeoutIs, logIs⟩ := finished
    exact ⟨⟨distinct, unrepeated⟩, overlay_iff.mpr ⟨_, url, urlIs⟩,
      overlay_iff.mpr ⟨_, directory, directoryIs⟩, overlay_iff.mpr ⟨_, timeout, timeoutIs⟩,
      overlay_iff.mpr ⟨_, log, logIs⟩⟩
  · rintro ⟨⟨distinct, unrepeated⟩, url, directory, timeout, log⟩
    obtain ⟨componentUrl, url, urlIs⟩ := overlay_iff.mp url
    obtain ⟨stagingDir, directory, directoryIs⟩ := overlay_iff.mp directory
    obtain ⟨fetchTimeout, timeout, timeoutIs⟩ := overlay_iff.mp timeout
    obtain ⟨logAsJson, log, logIs⟩ := overlay_iff.mp log
    exact ⟨⟨componentUrl, stagingDir, fetchTimeout, logAsJson⟩,
      ⟨distinct, url, directory, timeout, unrepeated, log⟩, urlIs, directoryIs, timeoutIs, logIs⟩

end

/-- Formats of the log that are objects with the same members, but for their order and for unknown
ones. -/
def LogAlike (key : String) (value other : List Char) : Prop :=
  key = "log" ∧ ∃ members others, Writes value members ∧ Writes other others ∧
    logForm.Rearranged (fun _ _ _ => False) members others

/-- Members of configurations that are the same but for their order and for unknown ones, also in the
format of the log. -/
abbrev Rearranged : List (String × List Char) → List (String × List Char) → Prop :=
  form.Rearranged LogAlike

/-- An object says the format that its members say. -/
theorem saysFormat_iff {value : List Char} {members : List (String × List Char)}
    (writes : Writes value members) {json : Bool} :
    SaysFormat value json ↔
      Overlay (Truth · · []) default.logAsJson (members.lookup "json") json := by
  constructor
  · rintro (⟨writesToo, overlay⟩ | lists | ⟨lists, -⟩)
    · exact writes.unique writesToo ▸ overlay
    · exact absurd lists writes.not_lists
    · exact absurd lists writes.not_lists
  · exact .object writes

theorem unrepeatedLog_iff {value : List Char} {members : List (String × List Char)}
    (writes : Writes value members) : UnrepeatedLog value ↔ logForm.Distinct members := by
  constructor
  · exact fun unrepeated => unrepeated members writes
  · exact fun distinct others writesToo => writes.unique writesToo ▸ distinct

/-- Alike values say the same format. -/
theorem format_iff_of_alike {key : String} {value other : List Char} (alike : LogAlike key value other)
    {json : Bool} :
    UnrepeatedLog value ∧ SaysFormat value json ↔ UnrepeatedLog other ∧ SaysFormat other json := by
  obtain ⟨-, members, others, writes, writesToo, rearranged⟩ := alike
  rw [unrepeatedLog_iff writes, unrepeatedLog_iff writesToo, saysFormat_iff writes,
    saysFormat_iff writesToo, ← rearranged.distinct_iff]
  apply and_congr_right
  intro distinct
  have known : logForm.field? "json" ≠ none := by decide
  exact rearranged.lookup_iff distinct known
    (P := fun found => Overlay (Truth · · []) default.logAsJson found json) fun alike => alike.elim

theorem overlay_some_iff {β : Type} {tells : List Char → β → Prop} {default b : β}
    {value : List Char} : Overlay tells default (some value) b ↔ tells value b := by
  constructor
  · rintro (_ | said)
    exact said
  · exact .given

/-- What members lay over the defaults they also lay over them in another arrangement. -/
theorem overlays_of_rearranged {members others : List (String × List Char)} {config : Config}
    (rearranged : Rearranged members others) (unrepeated : Unrepeated members)
    (overlays : Overlays members config) : Unrepeated others ∧ Overlays others config := by
  have same (key : String) (known : form.field? key ≠ none) (differs : key ≠ "log") :
      members.lookup key = others.lookup key :=
    (rearranged.lookup_iff unrepeated.distinct known (P := fun found => members.lookup key = found)
      fun alike => absurd alike.1 differs).mp rfl
  have log := (rearranged.lookup_iff unrepeated.distinct (by decide)
    (P := fun found => (∀ value, found = some value → UnrepeatedLog value) ∧
      Overlay SaysFormat default.logAsJson found config.logAsJson) fun alike => by
        simpa [overlay_some_iff] using format_iff_of_alike alike).mp ⟨unrepeated.log, overlays.log⟩
  exact ⟨⟨rearranged.distinct_iff.mp unrepeated.distinct, log.1⟩,
    same "componentUrl" (by decide) (by decide) ▸ overlays.componentUrl,
    same "stagingDir" (by decide) (by decide) ▸ overlays.stagingDir,
    same "fetchTimeoutMs" (by decide) (by decide) ▸ overlays.fetchTimeout, log.2⟩

/-- A file holds an object that has the given members. -/
def Holds (disk : State) (path : Path) (members : List (String × List Char)) : Prop :=
  ∃ text, disk.readText path = .ok text ∧ Writes text.toList members

/-- A configuration that is read of an object is the one that its members lay over the defaults. -/
theorem load_iff {disk : State} {path : Path} {members : List (String × List Char)} {config : Config}
    (holds : Holds disk path members) :
    load path disk = .ok config ↔ Unrepeated members ∧ Overlays members config := by
  obtain ⟨text, read, writes⟩ := holds
  rw [load_eq, read]
  dsimp only
  rw [mapError_eq_ok_iff]
  exact ofText_iff writes

/-- Loading lays the members of an object over the defaults, part by part: it succeeds exactly if no
known key is repeated and every known member has a value of its form, whatever else is in the object.
Neither the order of the members nor unknown ones change what is loaded. -/
theorem load_overlays :
    (∀ {disk : State} {path : Path} {members : List (String × List Char)}, Holds disk path members →
      (∀ config, load path disk = .ok config ↔ Unrepeated members ∧ Overlays members config) ∧
        ((∃ config, load path disk = .ok config) ↔ Unrepeated members ∧ Admissible members)) ∧
      ∀ {disk otherDisk : State} {path otherPath : Path} {members others : List (String × List Char)},
        Holds disk path members → Holds otherDisk otherPath others → Rearranged members others →
          ∀ config, load path disk = .ok config ↔ load otherPath otherDisk = .ok config := by
  refine ⟨fun holds => ⟨fun _ => load_iff holds, ?_⟩, fun holds otherHolds rearranged config => ?_⟩
  · simp only [load_iff holds, exists_and_left, exists_overlays_iff]
  · rw [load_iff holds, load_iff otherHolds]
    constructor
    · exact fun laid => overlays_of_rearranged rearranged laid.1 laid.2
    · exact fun laid => overlays_of_rearranged rearranged.back laid.1 laid.2

/-- A file that holds an unknown member and the format of the log as a list, and one without the unknown
member. -/
theorem load_overlays_on_short_files :
    load ⟨"c"⟩ (.plain (Tree.empty.add "c" [] (.file (.text "\x7b\"x\":[],\"log\":[true]\x7d")))) =
        .ok { default with logAsJson := true } ∧
      load ⟨"c"⟩ (.plain (Tree.empty.add "c" [] (.file (.text "\x7b\"log\":[true]\x7d")))) =
        .ok { default with logAsJson := true } := by
  have truth {rest : List Char} : Skipped ('t' :: 'r' :: 'u' :: 'e' :: rest) rest :=
    .scalar rfl (@Scalar.word 't' ['r', 'u', 'e'] rest (by decide))
  have empty {rest : List Char} : Skipped ('[' :: ']' :: rest) rest :=
    @Skipped.frame .list _ _ _ rfl (.nothing rfl)
  have list {rest : List Char} : Skipped ('[' :: 't' :: 'r' :: 'u' :: 'e' :: ']' :: rest) rest :=
    @Skipped.frame .list _ _ _ rfl (.values rfl truth (.nothing rfl))
  have keyX {rest : List Char} : Characters ('x' :: '\x22' :: rest) "x".toList rest :=
    @characters_of_plain ['x'] _ (by simp [isControl])
  have keyLog {rest : List Char} : Characters ('l' :: 'o' :: 'g' :: '\x22' :: rest) "log".toList rest :=
    @characters_of_plain ['l', 'o', 'g'] _ (by simp [isControl])
  have text : "\x7b\"x\":[],\"log\":[true]\x7d".toList =
      ['\x7b', '\x22', 'x', '\x22', ':', '[', ']', ',', '\x22', 'l', 'o', 'g', '\x22', ':', '[', 't', 'r',
        'u', 'e', ']', '\x7d'] := by decide +kernel
  have otherText : "\x7b\"log\":[true]\x7d".toList =
      ['\x7b', '\x22', 'l', 'o', 'g', '\x22', ':', '[', 't', 'r', 'u', 'e', ']', '\x7d'] := by
    decide +kernel
  have object : Object _ [("x", ⟨_, _⟩), ("log", ⟨_, _⟩)] :=
    .intro (congrArg pastGaps text) (.more rfl keyX rfl empty
      (.more ⟨_, rfl, rfl⟩ keyLog rfl list (.nothing rfl))) rfl
  have otherObject : Object _ [("log", ⟨_, _⟩)] :=
    .intro (congrArg pastGaps otherText) (.more rfl keyLog rfl list (.nothing rfl)) rfl
  have lists : Lists ['[', 't', 'r', 'u', 'e', ']'] [['t', 'r', 'u', 'e']] :=
    ⟨[⟨_, _⟩], .intro rfl (.more rfl ⟨rfl, truth⟩ (.nothing rfl)) rfl rfl, rfl⟩
  let file (text : String) : State := .plain (Tree.empty.add "c" [] (.file (.text text)))
  let members : List (String × List Char) := [("x", ['[', ']']), ("log", ['[', 't', 'r', 'u', 'e', ']'])]
  have holds : Holds (file "\x7b\"x\":[],\"log\":[true]\x7d") ⟨"c"⟩ members := ⟨_, rfl, _, object, rfl⟩
  have otherHolds : Holds (file "\x7b\"log\":[true]\x7d") ⟨"c"⟩ members.tail :=
    ⟨_, rfl, _, otherObject, rfl⟩
  have unrepeated : Unrepeated members := by
    refine ⟨by simp [members, Form.Distinct], ?_⟩
    rintro value ⟨⟩ inner writes
    exact absurd lists writes.not_lists
  have overlays : Overlays members { default with logAsJson := true } :=
    ⟨.absent, .absent, .absent, .given (.element lists rfl)⟩
  have loaded := ((load_overlays.1 holds).1 _).mpr ⟨unrepeated, overlays⟩
  have unknown : form.field? "x" = none := by decide
  have rearranged : Rearranged members members.tail := .back (.added unknown)
  exact ⟨loaded, (load_overlays.2 holds otherHolds rearranged _).mp loaded⟩

end ComponentInstall.Config
