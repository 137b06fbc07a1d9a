import ComponentInstall.Proofs.Json.Success

/-!
# What decoding can give

A decoder reads one form of data in two guises, and what holds of its results has to be shown for both.
`Gives` says that something does. For a record it is enough to look at its fields one by one: what holds
of the blank draft, and is kept when any field is put into a draft, holds of every draft that decoding
can come to, whether the record is an object or a list, a value or a text.
-/

namespace ComponentInstall.Json

variable {α β σ : Type}

/-- What holds of everything that a decoder gives, from a value and from a text. -/
structure Decoder.Gives (decoder : Decoder α) (P : α → Prop) : Prop where
  value : ∀ value a, decoder.ofValue value = .ok a → P a
  text : decoder.reader.Yields P

theorem Decoder.Gives.ofText {decoder : Decoder α} {P : α → Prop} (gives : decoder.Gives P)
    {text : String} {a : α} (decoded : decoder.ofText text = .ok a) : P a := by
  obtain ⟨middle, read, -⟩ := Reader.document_eq_ok_iff.mp decoded
  exact gives.text.of_read read

/-- Data that is changed after it has been read is a changed value. -/
theorem Decoder.gives_map (change : α → β) (decoder : Decoder α) {P : β → Prop}
    (holds : ∀ a, P (change a)) : (decoder.map change).Gives P where
  value value b decoded := by
    obtain ⟨a, -, rfl⟩ := map_eq_ok_iff.mp decoded
    exact holds a
  text := Reader.Yields.of_last fun a => Reader.Yields.pure (holds a)

/-- A field keeps what holds of drafts. -/
structure Field.Keeps (field : Field σ) (P : σ → Prop) : Prop where
  value : ∀ value draft next, P draft → field.ofValue value draft = .ok next → P next
  text : ∀ draft, P draft → (field.reader draft).Yields P

/-- A field keeps what its decoder gives, if putting that into a draft does. -/
theorem Decoder.Gives.field {decoder : Decoder α} {P : α → Prop} {Q : σ → Prop}
    (gives : decoder.Gives P) (key : String) (get : σ → Option α) {set : σ → α → σ}
    (keeps : ∀ draft a, Q draft → P a → Q (set draft a)) : (decoder.field key get set).Keeps Q where
  value value draft next holds decoded := by
    obtain ⟨a, read, rfl⟩ := map_eq_ok_iff.mp decoded
    exact keeps draft a holds (gives.value value a read)
  text draft holds :=
    Reader.Yields.bind gives.text fun a given => Reader.Yields.pure (keeps draft a holds given)

/-- A field that has nothing to do with what holds of drafts keeps it. -/
theorem Decoder.field_keeps (decoder : Decoder α) (key : String) (get : σ → Option α)
    {set : σ → α → σ} {Q : σ → Prop} (keeps : ∀ draft a, Q draft → Q (set draft a)) :
    (decoder.field key get set).Keeps Q :=
  have anything : decoder.Gives fun _ => True := ⟨fun _ _ _ => trivial, ⟨fun _ => trivial⟩⟩
  anything.field key get fun draft a holds _ => keeps draft a holds

namespace Form

variable {form : Form σ α} {P : σ → Prop} {Q : α → Prop}

theorem addMembers_keeps (keeps : ∀ field ∈ form.fields, field.Keeps P)
    {members : List (String × Value)} {draft last : σ} (holds : P draft)
    (added : form.addMembers draft members = .ok last) : P last := by
  induction members generalizing draft with
  | nil =>
    cases added
    exact holds
  | cons member rest inductionHypothesis =>
    obtain ⟨key, value⟩ := member
    rw [addMembers] at added
    obtain ⟨next, step, later⟩ := bind_eq_ok_iff.mp added
    refine inductionHypothesis ?_ later
    rw [addMember] at step
    cases known : form.field? key with
    | none =>
      rw [known] at step
      cases step
      exact holds
    | some field =>
      simp only [known] at step
      split at step
      · cases step
      · exact (keeps field (List.mem_of_find?_eq_some known)).value value draft next holds step

theorem addElements_keeps {fields : List (Field σ)} (keeps : ∀ field ∈ fields, field.Keeps P)
    {elements left : List Value} {draft last : σ} (holds : P draft)
    (added : addElements fields draft elements = .ok (last, left)) : P last := by
  induction fields generalizing draft elements with
  | nil =>
    cases added
    exact holds
  | cons field fields inductionHypothesis =>
    cases elements with
    | nil =>
      cases added
      exact holds
    | cons value rest =>
      rw [addElements] at added
      obtain ⟨next, step, later⟩ := bind_eq_ok_iff.mp added
      exact inductionHypothesis (fun other member => keeps other (List.mem_cons_of_mem field member))
        ((keeps field List.mem_cons_self).value value draft next holds step) later

theorem readMember_keeps (keeps : ∀ field ∈ form.fields, field.Keeps P) (key : String) {draft : σ}
    (holds : P draft) : (form.readMember key draft).Yields P := by
  rw [readMember]
  cases known : form.field? key with
  | none =>
    apply Reader.Yields.of_last
    intro _
    apply Reader.Yields.of_last
    intro _
    exact Reader.Yields.pure holds
  | some field =>
    dsimp only
    split
    · exact Reader.Yields.fail
    · apply Reader.Yields.of_last
      intro _
      exact (keeps field (List.mem_of_find?_eq_some known)).text draft holds

theorem membersFrom_keeps {member : String → σ → Reader σ}
    (keeps : ∀ key draft, P draft → (member key draft).Yields P) (fuel : Nat) (first : Bool)
    {draft : σ} (holds : P draft) : (Reader.membersFrom member fuel first draft).Yields P := by
  induction fuel generalizing first draft with
  | zero => exact Reader.Yields.pure holds
  | succ fuel inductionHypothesis =>
    rw [Reader.membersFrom]
    apply Reader.Yields.of_last
    intro more
    cases more with
    | false => exact Reader.Yields.pure holds
    | true =>
      apply Reader.Yields.of_last
      intro key
      apply Reader.Yields.bind (keeps key draft holds)
      intro next holdsNext
      exact inductionHypothesis false holdsNext

theorem readElements_keeps {fields : List (Field σ)} (keeps : ∀ field ∈ fields, field.Keeps P)
    (first : Bool) {draft : σ} (holds : P draft) : (readElements fields first draft).Yields P := by
  induction fields generalizing first draft with
  | nil => exact Reader.Yields.pure holds
  | cons field fields inductionHypothesis =>
    rw [readElements]
    apply Reader.Yields.of_last
    intro more
    cases more with
    | false => exact Reader.Yields.pure holds
    | true =>
      apply Reader.Yields.bind ((keeps field List.mem_cons_self).text draft holds)
      intro next holdsNext
      exact inductionHypothesis (fun other member => keeps other (List.mem_cons_of_mem field member))
        false holdsNext

theorem settled_yields {outcome : Except Cause α} (holds : ∀ a, outcome = .ok a → Q a) :
    (settled outcome).Yields Q := by
  cases outcome with
  | error cause => exact Reader.Yields.fail
  | ok a => exact Reader.Yields.pure (holds a rfl)

/-- What every field keeps and finishing turns into another thing holds of every record. -/
theorem gives (blank : P form.blank) (keeps : ∀ field ∈ form.fields, field.Keeps P)
    (finish : ∀ draft a, P draft → form.finish draft = .ok a → Q a) : form.decoder.Gives Q := by
  have ofMembers (draft : σ) (holds : P draft) (a : α) (made : form.ofMembers draft = .ok a) : Q a :=
    finish draft a holds (mapError_eq_ok_iff.mp made)
  have ofElements (draft : σ) (holds : P draft) (a : α) (made : form.ofElements draft = .ok a) :
      Q a := finish draft a holds (mapError_eq_ok_iff.mp made)
  constructor
  · intro value a decoded
    cases value with
    | object members =>
      obtain ⟨draft, added, made⟩ := bind_eq_ok_iff.mp decoded
      exact ofMembers draft (addMembers_keeps keeps blank added) a made
    | array elements =>
      obtain ⟨⟨draft, left⟩, added, decoded⟩ := bind_eq_ok_iff.mp decoded
      obtain ⟨record, made, whole⟩ := bind_eq_ok_iff.mp decoded
      split at whole
      · cases whole
        exact ofElements draft (addElements_keeps keeps blank added) a made
      · cases whole
    | _ => cases decoded
  · apply Reader.Yields.placed
    apply Reader.Yields.of_last
    intro c
    split
    · apply Reader.Yields.of_last
      intro _
      apply Reader.Yields.closedBy
      apply Reader.Yields.bind (readElements_keeps keeps true blank)
      intro draft holds
      exact settled_yields (ofElements draft holds)
    · apply Reader.Yields.of_last
      intro _
      apply Reader.Yields.closedBy
      apply Reader.Yields.bind (P := P)
      · apply Reader.Yields.of_last
        intro bound
        exact membersFrom_keeps (fun key draft holds => readMember_keeps keeps key holds) bound true
          blank
      · intro draft holds
        exact settled_yields (ofMembers draft holds)
    · exact Reader.Yields.mismatch

end Form

end ComponentInstall.Json
