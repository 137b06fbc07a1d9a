import ComponentInstall.Proofs.Json.Refusals
import ComponentInstall.Request

/-!
# What an object says of a request

An object says a request if it has a text for the name, the spelling of an action, and for the version and
the source a text or `null`, or nothing at all. An empty text is as good as nothing. Other members are
ignored. This is a matter of the values of four keys, wherever they stand, as long as none of these keys
is repeated. An object that repeats one of them is refused.

Data comes in two guises, as values and as parts of a text, and a guise has to tell no more than which of
its values are texts and which are null. In both of them an object is decoded exactly if it says a
request, and then to that request.
-/

namespace ComponentInstall.Request

open Json Grammar

variable {ν : Type}

/-- The values of a guise of data that are texts, and those that are null. -/
structure Guise (ν : Type) where
  IsText : ν → String → Prop
  IsNull : ν → Prop
  unique : ∀ {value text other}, IsText value text → IsText value other → text = other
  notNull : ∀ {value text}, IsText value text → ¬ IsNull value

namespace Guise

/-- Values that are at hand. -/
def value : Guise Value where
  IsText value text := value = .text text
  IsNull value := value = .null
  unique := by
    rintro _ text other rfl ⟨⟩
    rfl
  notNull := by
    rintro _ text rfl ⟨⟩

/-- Parts of a text. -/
def span : Guise Span where
  IsText span text := Quoted span.text text span.rest
  IsNull span := Null span.text span.rest
  unique one other := ((Decoder.follows_textNamed "").unique one other).1
  notNull := by
    rintro span text ⟨behind, quote, -⟩ null
    cases quote.symm.trans null

end Guise

/-- What a value says of the version or of the source. -/
inductive Settles (guise : Guise ν) (value : ν) : Option String → Prop
  | null (given : guise.IsNull value) : Settles guise value none
  | text {text : String} (given : guise.IsText value text) : Settles guise value (unlessEmpty text)

/-- A value spells an action. -/
def Spells (guise : Guise ν) (value : ν) (action : Action) : Prop := guise.IsText value action.text

/-- What the value of a key puts into a draft. -/
def Puts (guise : Guise ν) (key : String) (draft : Draft) (value : ν) (next : Draft) : Prop :=
  key = "name" ∧ (∃ name, guise.IsText value name ∧ { draft with name := some name } = next) ∨
    key = "version" ∧
      (∃ version, Settles guise value version ∧ { draft with version := some version } = next) ∨
    key = "action" ∧ (∃ action, Spells guise value action ∧ { draft with action := some action } = next) ∨
    key = "source" ∧ ∃ source, Settles guise value source ∧ { draft with source := some source } = next

section

variable {guise : Guise ν} {value : ν}

theorem Settles.unique {version other : Option String} (one : Settles guise value version)
    (second : Settles guise value other) : version = other := by
  cases one with
  | null null =>
    cases second with
    | null => rfl
    | text text => exact absurd null (guise.notNull text)
  | text text =>
    cases second with
    | null null => exact absurd null (guise.notNull text)
    | text other => rw [guise.unique text other]

theorem Spells.unique {action other : Action} (one : Spells guise value action)
    (second : Spells guise value other) : action = other := by
  have same := guise.unique one second
  cases action <;> cases other <;> first | rfl | exact absurd same (by decide)

end

/-- An action has one spelling. -/
theorem ofText_eq_ok_iff {text : String} {action : Action} :
    Action.ofText text = .ok action ↔ text = action.text := by
  constructor
  · intro known
    rw [Action.ofText] at known
    split at known
    · cases known
      assumption
    · split at known
      · cases known
        assumption
      · cases known
  · rintro rfl
    exact Action.ofText_text action

/-- Any other text is refused. -/
theorem ofText_of_unknown {text : String} (unknown : ∀ action : Action, text ≠ action.text) :
    Action.ofText text = .error (.invalidAction text) := by
  have notInstall : text ≠ "Install" := unknown .install
  have notUninstall : text ≠ "Uninstall" := unknown .uninstall
  rw [Action.ofText, if_neg notInstall, if_neg notUninstall]

section

variable {value : Value}

theorem text_ofValue_iff {text : String} :
    Decoder.text.ofValue value = .ok text ↔ Guise.value.IsText value text := by
  cases value <;> simp [Decoder.text, Decoder.textNamed, Guise.value]

theorem settable_ofValue_iff {version : Option String} :
    settable.ofValue value = .ok version ↔ Settles .value value version := by
  have given (result : Option String) : Decoder.text.optional.ofValue value = .ok result ↔
      value = .null ∧ result = none ∨ ∃ text, value = .text text ∧ result = some text := by
    cases value <;> simp [Decoder.optional, Decoder.text, Decoder.textNamed, Except.map, eq_comm]
  have settled : settable.ofValue value = .ok version ↔
      ∃ result, Decoder.text.optional.ofValue value = .ok result ∧
        result.bind unlessEmpty = version := map_eq_ok_iff
  rw [settled]
  constructor
  · rintro ⟨result, read, rfl⟩
    rcases (given result).mp read with ⟨rfl, rfl⟩ | ⟨text, rfl, rfl⟩
    · exact .null rfl
    · exact .text rfl
  · rintro (rfl | rfl)
    · exact ⟨none, (given none).mpr (.inl ⟨rfl, rfl⟩), rfl⟩
    · exact ⟨some _, (given _).mpr (.inr ⟨_, rfl, rfl⟩), rfl⟩

theorem action_ofValue_iff {action : Action} :
    Action.decoder.ofValue value = .ok action ↔ Spells .value value action := by
  rw [Action.decoder, Decoder.refine, bind_eq_ok_iff]
  constructor
  · rintro ⟨text, read, checked⟩
    cases known : Action.ofText text with
    | error error => simp [known] at checked
    | ok found =>
      obtain rfl : found = action := by simpa [known] using checked
      rw [Spells, ← ofText_eq_ok_iff.mp known]
      exact text_ofValue_iff.mp read
  · intro given
    exact ⟨action.text, text_ofValue_iff.mpr given, by simp [Action.ofText_text]⟩

end

theorem follows_settable :
    settable.reader.Follows fun input version rest => Settles .span ⟨input, rest⟩ version := by
  have given := Decoder.follows_optional (Decoder.follows_textNamed "a string")
    (by simp only [Quoted, pastGaps_pastGaps, implies_true])
    (by rintro input text rest ⟨behind, quote, -⟩; simp [quote])
  refine (given.map fun text => text.bind unlessEmpty).congr ?_
  intro input version rest
  constructor
  · rintro ⟨result, ⟨null, rfl⟩ | ⟨text, quoted, rfl⟩, rfl⟩
    · exact .null null
    · exact .text quoted
  · rintro (null | quoted)
    · exact ⟨none, .inl ⟨null, rfl⟩, rfl⟩
    · exact ⟨some _, .inr ⟨_, quoted, rfl⟩, rfl⟩

theorem follows_action :
    Action.decoder.reader.Follows fun input action rest => Spells .span ⟨input, rest⟩ action := by
  refine (Decoder.follows_refine (Decoder.follows_textNamed "a string")).congr ?_
  intro input action rest
  simp only [mapError_eq_ok_iff, ofText_eq_ok_iff, exists_eq_right]
  rfl

/-- A draft is finished if it has a name and an action. -/
theorem finish_eq_ok_iff {draft : Draft} {request : Request} : draft.finish = .ok request ↔
    draft.name = some request.name ∧ draft.version.join = request.version ∧
      draft.action = some request.action ∧ draft.source.join = request.source := by
  obtain ⟨name, version, action, source⟩ := request
  rw [Draft.finish]
  split <;> simp_all

/-- Values put into a draft what the fields read of them. -/
theorem puts_iff {key : String} {draft next : Draft} {value : Value} :
    form.puts key draft value next ↔ Puts .value key draft value next := by
  have name := @text_ofValue_iff value
  have settled := @settable_ofValue_iff value
  have action := @action_ofValue_iff value
  constructor
  · rintro ⟨field, found, read⟩
    obtain ⟨declared, rfl⟩ := Form.of_field? found
    simp only [form, List.mem_cons, List.not_mem_nil, or_false] at declared
    rcases declared with rfl | rfl | rfl | rfl <;>
      obtain ⟨given, decoded, rfl⟩ := map_eq_ok_iff.mp read
    · exact .inl ⟨rfl, given, name.mp decoded, rfl⟩
    · exact .inr (.inl ⟨rfl, given, settled.mp decoded, rfl⟩)
    · exact .inr (.inr (.inl ⟨rfl, given, action.mp decoded, rfl⟩))
    · exact .inr (.inr (.inr ⟨rfl, given, settled.mp decoded, rfl⟩))
  · rintro (⟨rfl, given, told, rfl⟩ | ⟨rfl, given, told, rfl⟩ | ⟨rfl, given, told, rfl⟩ |
      ⟨rfl, given, told, rfl⟩)
    · exact ⟨_, rfl, map_eq_ok_iff.mpr ⟨given, name.mpr told, rfl⟩⟩
    · exact ⟨_, rfl, map_eq_ok_iff.mpr ⟨given, settled.mpr told, rfl⟩⟩
    · exact ⟨_, rfl, map_eq_ok_iff.mpr ⟨given, action.mpr told, rfl⟩⟩
    · exact ⟨_, rfl, map_eq_ok_iff.mpr ⟨given, settled.mpr told, rfl⟩⟩

theorem keyed : form.Keyed := by
  intro field declared
  simp only [form, List.mem_cons, List.not_mem_nil, or_false] at declared
  rcases declared with rfl | rfl | rfl | rfl <;> rfl

/-- What the fields follow in a text. -/
def values (key : String) (draft : Draft) : Rule Draft := fun input next rest =>
  Puts .span key draft ⟨input, rest⟩ next

theorem skipped_of_settles {input rest : List Char} {version : Option String}
    (settles : Settles .span ⟨input, rest⟩ version) : Skipped input rest := by
  cases settles with
  | null null => exact skipped_of_null null
  | text quoted => exact skipped_of_quoted quoted

/-- Whatever is read of a value, it can be skipped. -/
theorem skipped_of_values {key : String} {draft next : Draft} {input rest : List Char}
    (put : values key draft input next rest) : Skipped input rest := by
  rcases put with ⟨-, name, given, -⟩ | ⟨-, version, given, -⟩ | ⟨-, action, given, -⟩ |
    ⟨-, source, given, -⟩
  · exact skipped_of_quoted given
  · exact skipped_of_settles given
  · exact skipped_of_quoted given
  · exact skipped_of_settles given

theorem follows_form : form.Follows values where
  follows field declared draft := by
    simp only [form, List.mem_cons, List.not_mem_nil, or_false] at declared
    rcases declared with rfl | rfl | rfl | rfl
    · refine ((Decoder.follows_textNamed "a string").map _).congr fun input next rest => ?_
      simp [values, Puts, Decoder.field]
      rfl
    · refine (follows_settable.map _).congr fun input next rest => ?_
      simp [values, Puts, Decoder.field]
    · refine (follows_action.map _).congr fun input next rest => ?_
      simp [values, Puts, Decoder.field]
    · refine (follows_settable.map _).congr fun input next rest => ?_
      simp [values, Puts, Decoder.field]
  consumes field _ draft := fun put => length_lt_of_skipped (skipped_of_values put)
  opens field _ draft := fun put => first_of_skipped (skipped_of_values put)

section

variable {guise : Guise ν}

/-- What is put under one key leaves the places of the others as they are. -/
theorem others_of_puts {key : String} {draft next : Draft} {value : ν}
    (put : Puts guise key draft value next) :
    (key ≠ "name" → next.name = draft.name) ∧ (key ≠ "version" → next.version = draft.version) ∧
      (key ≠ "action" → next.action = draft.action) ∧ (key ≠ "source" → next.source = draft.source) := by
  rcases put with ⟨rfl, _, -, rfl⟩ | ⟨rfl, _, -, rfl⟩ | ⟨rfl, _, -, rfl⟩ | ⟨rfl, _, -, rfl⟩ <;> simp

theorem slot_name : form.Slot (Puts guise) "name" Draft.name guise.IsText where
  known := by decide
  own := by
    intro draft value next put
    obtain ⟨name, given, rfl⟩ : ∃ name, guise.IsText value name ∧
      { draft with name := some name } = next := by simpa [Puts] using put
    exact ⟨name, given, rfl⟩
  kept put := (others_of_puts put).1

theorem slot_version : form.Slot (Puts guise) "version" Draft.version (Settles guise) where
  known := by decide
  own := by
    intro draft value next put
    obtain ⟨version, given, rfl⟩ : ∃ version, Settles guise value version ∧
      { draft with version := some version } = next := by simpa [Puts] using put
    exact ⟨version, given, rfl⟩
  kept put := (others_of_puts put).2.1

theorem slot_action : form.Slot (Puts guise) "action" Draft.action (Spells guise) where
  known := by decide
  own := by
    intro draft value next put
    obtain ⟨action, given, rfl⟩ : ∃ action, Spells guise value action ∧
      { draft with action := some action } = next := by simpa [Puts] using put
    exact ⟨action, given, rfl⟩
  kept put := (others_of_puts put).2.2.1

theorem slot_source : form.Slot (Puts guise) "source" Draft.source (Settles guise) where
  known := by decide
  own := by
    intro draft value next put
    obtain ⟨source, given, rfl⟩ : ∃ source, Settles guise value source ∧
      { draft with source := some source } = next := by simpa [Puts] using put
    exact ⟨source, given, rfl⟩
  kept put := (others_of_puts put).2.2.2

/-- Every field has a place of its own in the draft. -/
theorem marks_puts : form.Marks (Puts guise) where
  filled := by
    intro key draft value next other field put found
    obtain ⟨declared, rfl⟩ := Form.of_field? found
    simp only [form, List.mem_cons, List.not_mem_nil, or_false] at declared
    rcases put with ⟨rfl, _, -, rfl⟩ | ⟨rfl, _, -, rfl⟩ | ⟨rfl, _, -, rfl⟩ | ⟨rfl, _, -, rfl⟩ <;>
      rcases declared with rfl | rfl | rfl | rfl <;> simp [Decoder.field]

/-- A draft is what the members of an object tell. -/
structure Tells (guise : Guise ν) (members : List (String × ν)) (draft : Draft) : Prop where
  name : Form.Told guise.IsText (members.lookup "name") draft.name
  version : Form.Told (Settles guise) (members.lookup "version") draft.version
  action : Form.Told (Spells guise) (members.lookup "action") draft.action
  source : Form.Told (Settles guise) (members.lookup "source") draft.source

section

variable {members : List (String × ν)} {draft : Draft}

theorem Tells.unique {other : Draft} (tells : Tells guise members draft)
    (again : Tells guise members other) : draft = other := by
  obtain ⟨name, version, action, source⟩ := draft
  obtain ⟨nameToo, versionToo, actionToo, sourceToo⟩ := other
  obtain rfl := tells.name.unique again.name fun _ _ _ => guise.unique
  obtain rfl := tells.version.unique again.version fun _ _ _ => Settles.unique
  obtain rfl := tells.action.unique again.action fun _ _ _ => Spells.unique
  obtain rfl := tells.source.unique again.source fun _ _ _ => Settles.unique
  rfl

/-- A known member can be put into any draft if its key is told. -/
theorem Tells.able (tells : Tells guise members draft) (distinct : form.Distinct members)
    {key : String} {value : ν} (member : (key, value) ∈ members) (known : form.field? key ≠ none)
    (before : Draft) : ∃ next, Puts guise key before value next := by
  have found := distinct.lookup_of_mem known member
  obtain ⟨field, having⟩ := Option.ne_none_iff_exists'.mp known
  obtain ⟨declared, rfl⟩ := Form.of_field? having
  simp only [form, List.mem_cons, List.not_mem_nil, or_false] at declared
  rcases declared with rfl | rfl | rfl | rfl
  · obtain ⟨name, said⟩ := tells.name.exists_said found
    exact ⟨_, .inl ⟨rfl, name, said, rfl⟩⟩
  · obtain ⟨version, said⟩ := tells.version.exists_said found
    exact ⟨_, .inr (.inl ⟨rfl, version, said, rfl⟩)⟩
  · obtain ⟨action, said⟩ := tells.action.exists_said found
    exact ⟨_, .inr (.inr (.inl ⟨rfl, action, said, rfl⟩))⟩
  · obtain ⟨source, said⟩ := tells.source.exists_said found
    exact ⟨_, .inr (.inr (.inr ⟨rfl, source, said, rfl⟩))⟩

theorem tells_of_gathers (gathers : form.Gathers (Puts guise) form.blank members draft) :
    Tells guise members draft :=
  have distinct := Form.distinct_of_gathers marks_puts gathers
  { name := slot_name.told distinct gathers rfl
    version := slot_version.told distinct gathers rfl
    action := slot_action.told distinct gathers rfl
    source := slot_source.told distinct gathers rfl }

/-- Members are gathered in what they tell, unless a known key is repeated. -/
theorem gathers_iff : form.Gathers (Puts guise) form.blank members draft ↔
    form.Distinct members ∧ Tells guise members draft := by
  constructor
  · intro gathers
    exact ⟨Form.distinct_of_gathers marks_puts gathers, tells_of_gathers gathers⟩
  · rintro ⟨distinct, tells⟩
    have fresh : ∀ member ∈ members, ∀ field, form.field? member.1 = some field →
        field.filled form.blank = false := by
      intro member _ field found
      obtain ⟨declared, -⟩ := Form.of_field? found
      simp only [form, List.mem_cons, List.not_mem_nil, or_false] at declared
      rcases declared with rfl | rfl | rfl | rfl <;> rfl
    obtain ⟨last, gathers⟩ := Form.exists_gathers marks_puts distinct fresh
      fun _ inside => tells.able distinct inside
    rwa [tells.unique (tells_of_gathers gathers)]

end

end

theorem puts_eq : form.puts = Puts Guise.value := by
  funext key draft value next
  exact propext puts_iff

/-- An object that is at hand is decoded to what its members tell. -/
theorem ofValue_object_iff {members : List (String × Value)} {request : Request} :
    decoder.ofValue (.object members) = .ok request ↔ form.Distinct members ∧
      ∃ draft, Tells .value members draft ∧ draft.finish = .ok request := by
  rw [decoder, Form.ofValue_object_eq_ok_iff, puts_eq]
  simp only [gathers_iff, and_assoc, exists_and_left]
  rfl

/-- A text that is an object is decoded to what its members tell. -/
theorem ofText_object_iff {text : String} {members : List (String × Span)}
    (object : Object text.toList members) {request : Request} :
    decoder.ofText text = .ok request ↔ form.Distinct members ∧
      ∃ draft, Tells .span members draft ∧ draft.finish = .ok request := by
  have gathered (draft : Draft) :
      form.Gathers (Form.putsSpan values) form.blank members draft ↔
        form.Distinct members ∧ Tells .span members draft := gathers_iff
  rw [decoder, Form.ofText_object_eq_ok_iff follows_form skipped_of_values object]
  simp only [gathered, and_assoc, exists_and_left]
  rfl

section

variable {guise : Guise ν} {members : List (String × ν)}

end

end ComponentInstall.Request
