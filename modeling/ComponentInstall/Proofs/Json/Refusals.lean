import ComponentInstall.Proofs.Json.Objects

/-!
# Why a text is refused

Of what is wrong with a text only the first fault from the left counts. So a reader is refused for the
cause for which one of its parts is refused, if all parts before it can be read. The position of the fault
does not matter here, and neither does where the reader stops.

For a record this means that a value is what it is refused for, if its key is known and has not been seen
and the members before it can be gathered. The same holds of a record in the other guise, where a value is
at hand.
-/

namespace ComponentInstall.Json

open Grammar

variable {α β σ : Type}

namespace Reader

/-- A reader is refused for a cause wherever a text is left. -/
def Refuses (reader : Reader α) (input : List Char) (cause : Cause) : Prop :=
  ∀ position, ∃ noticed reached, reader ⟨input, position⟩ = (.error ⟨cause, noticed⟩, reached)

namespace Refuses

variable {input middle : List Char} {cause : Cause}

theorem fail : (Reader.fail cause : Reader α).Refuses input cause := fun _ => ⟨_, _, rfl⟩

theorem first {first : Reader α} {second : α → Reader β} (refuses : first.Refuses input cause) :
    (first >>= second).Refuses input cause := by
  intro position
  obtain ⟨noticed, reached, read⟩ := refuses position
  exact ⟨noticed, reached, by rw [bind_apply, read]⟩

/-- What is behind a part counts if the part can be read. -/
theorem behind {first : Reader α} {rule : Rule α} {second : α → Reader β} {a : α}
    (refuses : (second a).Refuses middle cause) (follows : first.Follows rule)
    (allowed : rule input a middle) : (first >>= second).Refuses input cause := by
  intro position
  obtain ⟨between, read⟩ := (follows.reads_iff ⟨input, position⟩).mpr allowed
  obtain ⟨noticed, reached, readSecond⟩ := refuses between
  exact ⟨noticed, reached, by rw [bind_apply, read]; exact readSecond⟩

theorem take {second : Unit → Reader β} {c : Char} (refuses : (second ()).Refuses input cause) :
    (Reader.take >>= second).Refuses (c :: input) cause :=
  fun position => refuses (position.after c)

theorem placed {reader : Reader α} (refuses : reader.Refuses input cause) :
    (Reader.placed reader).Refuses input cause := by
  intro position
  obtain ⟨noticed, reached, read⟩ := refuses position
  cases noticed with
  | none => exact ⟨some reached.position, reached, by simp [Reader.placed, read]⟩
  | some noticed => exact ⟨some noticed, reached, by simp [Reader.placed, read]⟩

/-- Of the faults of a body and of its end that of the body counts. -/
theorem closedBy {body : Reader α} {close : Reader Unit} (refuses : body.Refuses input cause) :
    (Reader.closedBy body close).Refuses input cause := by
  intro position
  obtain ⟨noticed, reached, read⟩ := refuses position
  exact ⟨noticed, (close reached).2, by simp [Reader.closedBy, read]⟩

theorem document {reader : Reader α} {text : String} (refuses : reader.Refuses text.toList cause) :
    (Reader.document reader text).mapError Fault.cause = .error cause := by
  obtain ⟨noticed, reached, read⟩ := refuses ⟨1, 0⟩
  have start : reader (.start text) = (.error ⟨cause, noticed⟩, reached) := read
  simp [Reader.document, bind_apply, start]

end Refuses

end Reader

namespace Form

variable {form : Form σ α} {values : String → σ → Rule σ}

/-- The value of a member is refused if its key is known and has not been seen. -/
theorem refuses_readMember {key : String} {draft : σ} {field : Field σ} {input behind : List Char}
    {cause : Cause} (found : form.field? key = some field) (fresh : field.filled draft = false)
    (colon : pastGaps input = ':' :: behind) (refuses : (field.reader draft).Refuses behind cause) :
    (form.readMember key draft).Refuses input cause := by
  simp only [readMember, found, fresh, Bool.false_eq_true, if_false]
  exact Reader.Refuses.behind (a := ()) refuses Reader.follows_colon colon

/-- The first member that is refused is what the members are refused for. -/
theorem refuses_membersFrom (formFollows : form.Follows values) {before after : List (String × Span)}
    {key : String} {span : Span} {draft reached : σ} {field : Field σ} {cause : Cause}
    {first : Bool} {input rest : List Char} {fuel : Nat} (enough : input.length < fuel)
    (spelled : Spelled first input (before ++ (key, span) :: after) rest)
    (gathers : form.Gathers (putsSpan values) draft before reached)
    (found : form.field? key = some field) (fresh : field.filled reached = false)
    (refuses : (field.reader reached).Refuses span.text cause) :
    (Reader.membersFrom form.readMember fuel first draft).Refuses input cause := by
  induction fuel generalizing first input draft before with
  | zero => omega
  | succ fuel inductionHypothesis =>
    rw [Reader.membersFrom]
    cases before with
    | nil =>
      cases gathers
      cases spelled with
      | more separated characters colon skipped later =>
        refine Reader.Refuses.behind (a := true) ?_ (Reader.follows_moreMembers first)
          ⟨separated, _, rfl⟩
        refine Reader.Refuses.behind (a := key) ?_ Reader.follows_key characters
        exact (refuses_readMember found fresh colon refuses).first
    | cons member before =>
      cases spelled with
      | more separated characters colon skipped later =>
        refine Reader.Refuses.behind (a := true) ?_ (Reader.follows_moreMembers first)
          ⟨separated, _, rfl⟩
        refine Reader.Refuses.behind ?_ Reader.follows_key characters
        have fewer := length_le_of_separated separated
        have fewerText := length_lt_of_characters characters
        have fewerBehind := length_lt_of_pastGaps colon
        have shorter := length_lt_of_skipped skipped
        simp only [List.length_cons] at fewer
        cases gathers with
        | unknown absent gathersLater =>
          exact Reader.Refuses.behind (inductionHypothesis (by omega) later gathersLater)
            (form.follows_readMember formFollows _ draft) (.unknown absent colon skipped)
        | known declared freshBefore put gathersLater =>
          exact Reader.Refuses.behind (inductionHypothesis (by omega) later gathersLater)
            (form.follows_readMember formFollows _ draft) (.known declared freshBefore colon put)

/-- An object is refused for the first of its members that is refused. -/
theorem ofText_object_of_refused (formFollows : form.Follows values)
    {before after : List (String × Span)} {key : String} {span : Span} {reached : σ} {field : Field σ}
    {cause : Cause} {text : String}
    (object : Object text.toList (before ++ (key, span) :: after))
    (gathers : form.Gathers (putsSpan values) form.blank before reached)
    (found : form.field? key = some field) (fresh : field.filled reached = false)
    (refuses : (field.reader reached).Refuses span.text cause) :
    (form.decoder.ofText text).mapError Fault.cause = .error cause := by
  obtain ⟨begins, spelled, ends⟩ := object
  have members : (Reader.members form.readMember form.blank).Refuses _ cause := fun position =>
    refuses_membersFrom formFollows (Nat.lt_succ_self _) spelled gathers found fresh refuses position
  apply Reader.Refuses.document
  apply Reader.Refuses.placed
  refine Reader.Refuses.behind ?_ Decoder.follows_present ⟨begins, rfl⟩
  exact Reader.Refuses.take (Reader.Refuses.closedBy members.first)

theorem addMembers_append (draft : σ) (before after : List (String × Value)) :
    form.addMembers draft (before ++ after) =
      (form.addMembers draft before >>= fun reached => form.addMembers reached after) := by
  induction before generalizing draft with
  | nil => rfl
  | cons member before inductionHypothesis =>
    obtain ⟨key, value⟩ := member
    rw [List.cons_append, addMembers, addMembers]
    cases form.addMember draft key value with
    | error cause => rfl
    | ok next => exact inductionHypothesis next

theorem ofValue_object_of_refused {before after : List (String × Value)} {key : String} {value : Value}
    {reached : σ} {field : Field σ} {cause : Cause}
    (gathers : form.Gathers form.puts form.blank before reached)
    (found : form.field? key = some field) (fresh : field.filled reached = false)
    (refuses : field.ofValue value reached = .error cause) :
    form.decoder.ofValue (.object (before ++ (key, value) :: after)) = .error cause := by
  simp [decoder, ofValue, addMembers_append, addMembers_eq_ok_iff.mpr gathers, addMembers, addMember,
    found, fresh, refuses]

/-- The first element that is refused is what the elements are refused for. -/
theorem addElements_of_refused {filled behind : List (Field σ)}
    (keyed : ∀ field ∈ filled, form.field? field.key = some field) {before after : List Value}
    {value : Value} {draft reached : σ} {field : Field σ} {cause : Cause}
    (fills : Fills form.puts filled draft before reached) (whole : before.length = filled.length)
    (refuses : field.ofValue value reached = .error cause) :
    addElements (filled ++ field :: behind) draft (before ++ value :: after) = .error cause := by
  induction fills with
  | all =>
    obtain rfl := List.eq_nil_of_length_eq_zero whole.symm
    rw [List.nil_append, List.nil_append, addElements, refuses, error_bind]
  | more put later inductionHypothesis =>
    obtain ⟨declared, found, read⟩ := put
    cases (keyed _ List.mem_cons_self).symm.trans found
    rw [List.cons_append, List.cons_append, addElements, read, ok_bind]
    exact inductionHypothesis (fun other inside => keyed other (List.mem_cons_of_mem _ inside))
      (Nat.succ.inj whole) refuses

theorem ofValue_array_of_refused (keyed : form.Keyed) {filled behind : List (Field σ)}
    {before after : List Value} {value : Value} {reached : σ} {field : Field σ} {cause : Cause}
    (declared : form.fields = filled ++ field :: behind)
    (fills : Fills form.puts filled form.blank before reached) (whole : before.length = filled.length)
    (refuses : field.ofValue value reached = .error cause) :
    form.decoder.ofValue (.array (before ++ value :: after)) = .error cause := by
  have keyedFilled : ∀ field ∈ filled, form.field? field.key = some field :=
    fun other inside => keyed other (declared ▸ List.mem_append_left _ inside)
  have refused : addElements form.fields form.blank (before ++ value :: after) = .error cause :=
    declared ▸ addElements_of_refused keyedFilled fills whole refuses
  simp [decoder, ofValue, refused]

/-- Where a value begins in a list, there is another element. -/
theorem more_of_skipped {first : Bool} {input start rest : List Char}
    (separated : Separated first input start) (skipped : Skipped start rest) :
    Separated first input start ∧ ∃ c tail, start = c :: tail ∧ c ≠ ']' := by
  obtain ⟨c, tail, begins, notClosed⟩ := first_of_skipped skipped
  rw [pastGaps_of_separated separated] at begins
  exact ⟨separated, c, tail, begins, notClosed⟩

/-- The first element that is refused is what the elements are refused for. -/
theorem refuses_readElements {filled behind : List (Field σ)} {before after : List Span} {span : Span}
    {draft reached : σ} {field : Field σ} {cause : Cause}
    (follows : ∀ field ∈ filled, ∀ draft, (field.reader draft).Follows (values field.key draft))
    (fills : Fills (putsSpan values) filled draft before reached)
    (whole : before.length = filled.length) {first : Bool} {input rest : List Char}
    (spelled : Elements Part first input (before ++ span :: after) rest)
    (refuses : (field.reader reached).Refuses span.text cause) :
    (readElements (filled ++ field :: behind) first draft).Refuses input cause := by
  induction fills generalizing first input with
  | all =>
    obtain rfl := List.eq_nil_of_length_eq_zero whole.symm
    cases spelled with
    | more separated head tail =>
      obtain ⟨rfl, skipped⟩ := head
      exact Reader.Refuses.behind (a := true) refuses.first (Reader.follows_moreElements first)
        (more_of_skipped separated skipped)
  | @more other filled draft next last value elements put later inductionHypothesis =>
    cases spelled with
    | more separated head tail =>
      obtain ⟨rfl, skipped⟩ := head
      have followsLater := fun field member => follows field (List.mem_cons_of_mem other member)
      have refusesLater := inductionHypothesis followsLater (Nat.succ.inj whole) tail refuses
      refine Reader.Refuses.behind (a := true) ?_ (Reader.follows_moreElements first)
        (more_of_skipped separated skipped)
      exact refusesLater.behind (follows other List.mem_cons_self draft) put

/-- A list is refused for the first of its elements that is refused. -/
theorem ofText_sequence_of_refused (formFollows : form.Follows values) {filled behind : List (Field σ)}
    {before after : List Span} {span : Span} {reached : σ} {field : Field σ} {cause : Cause}
    {text : String} (sequence : Sequence text.toList (before ++ span :: after))
    (declared : form.fields = filled ++ field :: behind)
    (fills : Fills (putsSpan values) filled form.blank before reached)
    (whole : before.length = filled.length)
    (refuses : (field.reader reached).Refuses span.text cause) :
    (form.decoder.ofText text).mapError Fault.cause = .error cause := by
  obtain ⟨begins, spelled, closed, ends⟩ := sequence
  have follows : ∀ field ∈ filled, ∀ draft, (field.reader draft).Follows (values field.key draft) :=
    fun field member => formFollows.follows field (declared ▸ List.mem_append_left _ member)
  have elements : (readElements (filled ++ field :: behind) true form.blank).Refuses _ cause :=
    refuses_readElements follows fills whole spelled refuses
  rw [← declared] at elements
  apply Reader.Refuses.document
  apply Reader.Refuses.placed
  refine Reader.Refuses.behind ?_ Decoder.follows_present ⟨begins, rfl⟩
  exact Reader.Refuses.take (Reader.Refuses.closedBy elements.first)

end Form

end ComponentInstall.Json
