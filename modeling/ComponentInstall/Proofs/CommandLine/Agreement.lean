import ComponentInstall.CommandLine.Command
import ComponentInstall.Proofs.Request.Members

/-!
# The ways to a request agree

A request can be built from the options of a plan, or decoded from an object or from a list, each of them at
hand or in a text. Data describes options if it has their texts. What is not given may be null, or in an
object absent, and an object may have further members. Then decoding comes to what building does: to the
same request, or to the same complaint about the action.

With a known action this follows from what an object tells. With an unknown one the members before the
action can be gathered, so the action is what the object is refused for, whatever comes behind it.
-/

namespace ComponentInstall.CommandLine

open Json Grammar Request

variable {ν : Type}

/-- Data gives a text or none. Null gives none as well. -/
inductive States (guise : Guise ν) : Option ν → Option String → Prop
  | absent : States guise none none
  | null {value : ν} (given : guise.IsNull value) : States guise (some value) none
  | text {value : ν} {text : String} (given : guise.IsText value text) :
      States guise (some value) (some text)

/-- The members of an object have what options give for a request. -/
structure Describes (guise : Guise ν) (members : List (String × ν)) (options : PlanOptions) :
    Prop where
  name : ∃ value, members.lookup "name" = some value ∧ guise.IsText value options.name
  version : States guise (members.lookup "version") options.version
  action : ∃ value, members.lookup "action" = some value ∧ guise.IsText value options.action
  source : States guise (members.lookup "source") options.source

/-- The elements of a list are what options give for a request, in the order of the fields. -/
inductive Lists (guise : Guise ν) (options : PlanOptions) : List ν → Prop
  | intro {name version action source : ν} (named : guise.IsText name options.name)
      (versioned : States guise (some version) options.version)
      (asked : guise.IsText action options.action)
      (sourced : States guise (some source) options.source) :
      Lists guise options [name, version, action, source]

/-- What building comes to, with an error as the cause for which data is refused. -/
def PlanOptions.outcome (options : PlanOptions) : Except Cause Request :=
  options.request.mapError fun error => .refused error.message

/-- The request of options with an action. -/
def PlanOptions.requestFor (options : PlanOptions) (action : Action) : Request :=
  ⟨options.name, options.version.bind unlessEmpty, action, options.source.bind unlessEmpty⟩

namespace PlanOptions

variable {options : PlanOptions}

theorem request_eq : options.request = (Action.ofText options.action).map options.requestFor := by
  rw [request]
  cases Action.ofText options.action with
  | error error => rfl
  | ok action =>
    cases version : options.version <;> cases source : options.source <;>
      simp [requestFor, Except.map, Request.new, withVersion, withSource, version, source]

theorem request_of_text {action : Action} (known : options.action = action.text) :
    options.request = .ok (options.requestFor action) := by
  rw [request_eq, known, Action.ofText_text]
  rfl

theorem request_of_unknown (unknown : ∀ action : Action, options.action ≠ action.text) :
    options.request = .error (.invalidAction options.action) := by
  rw [request_eq, ofText_of_unknown unknown]
  rfl

/-- Building succeeds with an action that is known, and complains about any other one. -/
theorem outcome_cases (options : PlanOptions) :
    (∃ action : Action, options.action = action.text ∧
      options.outcome = .ok (options.requestFor action)) ∨
    (∀ action : Action, options.action ≠ action.text) ∧
      options.outcome = .error (.refused (RequestError.invalidAction options.action).message) := by
  by_cases known : ∃ action : Action, options.action = action.text
  · obtain ⟨action, same⟩ := known
    exact .inl ⟨action, same, by rw [outcome, request_of_text same, mapError_ok]⟩
  · have unknown := not_exists.mp known
    exact .inr ⟨unknown, by rw [outcome, request_of_unknown unknown, mapError_error]⟩

end PlanOptions

section

variable {guise : Guise ν} {options : PlanOptions}

/-- What is given settles the text that building keeps of it. -/
theorem States.settles {value : ν} {given : Option String} (states : States guise (some value) given) :
    Settles guise value (given.bind unlessEmpty) := by
  cases states with
  | null null => exact .null null
  | text text => exact .text text

theorem States.exists_told {found : Option ν} {given : Option String}
    (states : States guise found given) :
    ∃ told, Form.Told (Settles guise) found told ∧ told.join = given.bind unlessEmpty := by
  cases found with
  | none =>
    cases states
    exact ⟨none, .absent, rfl⟩
  | some value => exact ⟨some _, .given states.settles, rfl⟩

/-- With a known action the members tell the request that is built. -/
theorem Describes.exists_tells {members : List (String × ν)} (describes : Describes guise members options)
    {action : Action} (known : options.action = action.text) :
    ∃ draft, Tells guise members draft ∧ draft.finish = .ok (options.requestFor action) := by
  have nameTold := Form.told_some_iff.mpr describes.name
  obtain ⟨version, versionTold, versionKept⟩ := describes.version.exists_told
  obtain ⟨source, sourceTold, sourceKept⟩ := describes.source.exists_told
  have actionTold : Form.Told (Spells guise) (members.lookup "action") (some action) := by
    obtain ⟨value, found, given⟩ := describes.action
    rw [known] at given
    exact Form.told_some_iff.mpr ⟨value, found, given⟩
  exact ⟨⟨some options.name, version, some action, source⟩,
    ⟨nameTold, versionTold, actionTold, sourceTold⟩,
    finish_eq_ok_iff.mpr ⟨rfl, versionKept, rfl, sourceKept⟩⟩

/-- Up to the action the members can be gathered, whatever the action is. -/
theorem Describes.exists_front {members : List (String × ν)} (describes : Describes guise members options)
    (distinct : form.Distinct members) : ∃ front value behind reached,
      members = front ++ ("action", value) :: behind ∧ guise.IsText value options.action ∧
        form.Gathers (Puts guise) form.blank front reached ∧ reached.action = none := by
  obtain ⟨value, found, given⟩ := describes.action
  obtain ⟨front, behind, rfl, others⟩ := List.lookup_eq_some_iff.mp found
  have absent : front.lookup "action" = none := List.lookup_eq_none_iff.mpr others
  have nameTold := Form.told_some_iff.mpr describes.name
  obtain ⟨_, versionTold, -⟩ := describes.version.exists_told
  obtain ⟨_, sourceTold, -⟩ := describes.source.exists_told
  obtain ⟨name, nameFront⟩ := nameTold.exists_front
  obtain ⟨version, versionFront⟩ := versionTold.exists_front
  obtain ⟨source, sourceFront⟩ := sourceTold.exists_front
  have tells : Tells guise front ⟨name, version, none, source⟩ :=
    ⟨nameFront, versionFront, absent ▸ .absent, sourceFront⟩
  exact ⟨front, value, behind, _, rfl, given,
    gathers_iff.mpr ⟨(List.pairwise_append.mp distinct).1, tells⟩, rfl⟩

/-- With a known action the elements fill the fields of the request that is built. -/
theorem Lists.exists_fills {elements : List ν} (lists : Lists guise options elements) {action : Action}
    (known : options.action = action.text) :
    ∃ draft, Form.Fills (Puts guise) form.fields form.blank elements draft ∧
      draft.finish = .ok (options.requestFor action) := by
  obtain ⟨named, versioned, asked, sourced⟩ := lists
  have spells : Spells guise _ action := known ▸ asked
  refine ⟨⟨some options.name, some (options.version.bind unlessEmpty), some action,
    some (options.source.bind unlessEmpty)⟩, ?_, rfl⟩
  refine .more (.inl ⟨rfl, _, named, rfl⟩) ?_
  refine .more (.inr (.inl ⟨rfl, _, versioned.settles, rfl⟩)) ?_
  refine .more (.inr (.inr (.inl ⟨rfl, _, spells, rfl⟩))) ?_
  exact .more (.inr (.inr (.inr ⟨rfl, _, sourced.settles, rfl⟩))) .all

/-- The elements before the action fill the fields before it, whatever the action is. -/
theorem Lists.exists_front {elements : List ν} (lists : Lists guise options elements) :
    ∃ name version action source reached, elements = [name, version] ++ action :: [source] ∧
      guise.IsText action options.action ∧
      Form.Fills (Puts guise) (form.fields.take 2) form.blank [name, version] reached := by
  obtain ⟨named, versioned, asked, sourced⟩ := lists
  refine ⟨_, _, _, _, ⟨some options.name, some (options.version.bind unlessEmpty), none, none⟩, rfl,
    asked, ?_⟩
  refine .more (.inl ⟨rfl, _, named, rfl⟩) ?_
  exact .more (.inr (.inl ⟨rfl, _, versioned.settles, rfl⟩)) .all

end

/-- The field in which an unknown action is noticed. -/
def actionField : Json.Field Draft :=
  Action.decoder.field "action" Draft.action fun draft action => { draft with action := some action }

theorem field?_action : form.field? "action" = some actionField := rfl

theorem fields_eq : form.fields = form.fields.take 2 ++ actionField :: form.fields.drop 3 := rfl

section

variable {text : String}

theorem actionField_ofValue (unknown : ∀ action : Action, text ≠ action.text) (draft : Draft) :
    actionField.ofValue (.text text) draft =
      .error (.refused (RequestError.invalidAction text).message) := by
  have refused := ofText_of_unknown unknown
  simp [actionField, Decoder.field, Action.decoder, Decoder.refine, Decoder.text, Decoder.textNamed,
    refused, Except.map]

theorem actionField_refuses (unknown : ∀ action : Action, text ≠ action.text) {input rest : List Char}
    (quoted : Quoted input text rest) (draft : Draft) :
    (actionField.reader draft).Refuses input
      (.refused (RequestError.invalidAction text).message) := by
  have checked : Action.decoder.reader.Refuses input
      (.refused (RequestError.invalidAction text).message) := by
    refine Reader.Refuses.behind ?_ (Decoder.follows_textNamed "a string") quoted
    simp only [ofText_of_unknown unknown, mapError_error]
    exact Reader.Refuses.fail
  exact checked.first

end

section

variable {options : PlanOptions}

/-- An object that is at hand is decoded to what building comes to. -/
theorem Describes.ofValue {members : List (String × Value)} (describes : Describes .value members options)
    (distinct : form.Distinct members) : decoder.ofValue (.object members) = options.outcome := by
  rcases options.outcome_cases with ⟨action, known, built⟩ | ⟨unknown, refused⟩
  · rw [built]
    exact ofValue_object_iff.mpr ⟨distinct, describes.exists_tells known⟩
  · obtain ⟨front, value, behind, reached, rfl, rfl, gathers, empty⟩ := describes.exists_front distinct
    rw [refused]
    exact Form.ofValue_object_of_refused (puts_eq ▸ gathers) field?_action
      (by simp [actionField, Decoder.field, empty]) (actionField_ofValue unknown reached)

/-- An object in a text is decoded to what building comes to. -/
theorem Describes.ofText {document : String} {members : List (String × Span)}
    (object : Object document.toList members) (describes : Describes .span members options)
    (distinct : form.Distinct members) :
    (decoder.ofText document).mapError Fault.cause = options.outcome := by
  rcases options.outcome_cases with ⟨action, known, built⟩ | ⟨unknown, refused⟩
  · rw [built, mapError_eq_ok_iff]
    exact (ofText_object_iff object).mpr ⟨distinct, describes.exists_tells known⟩
  · obtain ⟨front, value, behind, reached, rfl, given, gathers, empty⟩ := describes.exists_front distinct
    rw [refused]
    exact Form.ofText_object_of_refused follows_form object gathers field?_action
      (by simp [actionField, Decoder.field, empty]) (actionField_refuses unknown given reached)

/-- A list that is at hand is decoded to what building comes to. -/
theorem Lists.ofValue {elements : List Value} (lists : Lists .value options elements) :
    decoder.ofValue (.array elements) = options.outcome := by
  rcases options.outcome_cases with ⟨action, known, built⟩ | ⟨unknown, refused⟩
  · obtain ⟨draft, fills, finished⟩ := lists.exists_fills known
    rw [built]
    exact Form.ofValue_array keyed (puts_eq ▸ fills) finished
  · obtain ⟨name, version, action, source, reached, rfl, rfl, fills⟩ := lists.exists_front
    rw [refused]
    exact Form.ofValue_array_of_refused keyed fields_eq (puts_eq ▸ fills) rfl
      (actionField_ofValue unknown reached)

/-- A list in a text is decoded to what building comes to. -/
theorem Lists.ofText {document : String} {elements : List Span}
    (sequence : Sequence document.toList elements) (lists : Lists .span options elements) :
    (decoder.ofText document).mapError Fault.cause = options.outcome := by
  rcases options.outcome_cases with ⟨action, known, built⟩ | ⟨unknown, refused⟩
  · obtain ⟨draft, fills, finished⟩ := lists.exists_fills known
    rw [built, mapError_eq_ok_iff]
    exact Form.ofText_sequence follows_form sequence fills finished
  · obtain ⟨name, version, action, source, reached, rfl, given, fills⟩ := lists.exists_front
    rw [refused]
    exact Form.ofText_sequence_of_refused follows_form sequence fields_eq fills rfl
      (actionField_refuses unknown given reached)

end

end ComponentInstall.CommandLine
