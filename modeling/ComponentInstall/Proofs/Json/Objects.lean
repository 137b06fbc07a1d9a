import ComponentInstall.Proofs.Json.Records

/-!
# What the members of an object come to

The members of an object are its keys, each with something that stands for its value: the value itself,
or the part of a text in which it is written. `Gathers` puts them into a draft, one after the other, where
a rule says which draft a value of a known key leads to. Both guises of data gather their members so.
A text determines its members, so what is said of them is said of the text.

As long as no known key is repeated, every field can be looked at alone. `Slot` says that a key and no
other one fills a place of the draft. Then that place holds what the value of the key says if the key is
there, and nothing otherwise, and the order of the members does not matter.
-/

namespace ComponentInstall.Json

open Grammar

/-- A part of a text, by what is left before it and what is left behind it. -/
structure Span where
  text : List Char
  rest : List Char

namespace Grammar

/-- The members of an object, as their keys and the parts that hold their values, up to the closing
sign. -/
inductive Spelled : Bool → Rule (List (String × Span))
  | nothing {first : Bool} {input rest : List Char} (closed : pastGaps input = '\x7d' :: rest) :
      Spelled first input [] ('\x7d' :: rest)
  | more {first : Bool} {input text behind value middle rest : List Char} {key : String}
      {members : List (String × Span)} (separated : Separated first input ('\x22' :: text))
      (characters : Characters text key.toList behind) (colon : pastGaps behind = ':' :: value)
      (skipped : Skipped value middle) (later : Spelled false middle members rest) :
      Spelled first input ((key, ⟨value, middle⟩) :: members) rest

/-- A document is an object that has the given members. -/
inductive Object (document : List Char) (members : List (String × Span)) : Prop
  | intro {inside rest : List Char} (begins : pastGaps document = '\x7b' :: inside)
      (spelled : Spelled true inside members ('\x7d' :: rest)) (ends : pastGaps rest = []) :
      Object document members

/-- An element of a list, as the part that holds it. -/
def Part : Rule Span := fun input span rest => span = ⟨input, rest⟩ ∧ Skipped input rest

/-- A document is a list that has the given elements. -/
inductive Sequence (document : List Char) (elements : List Span) : Prop
  | intro {inside middle rest : List Char} (begins : pastGaps document = '[' :: inside)
      (spelled : Elements Part true inside elements middle) (closed : pastGaps middle = ']' :: rest)
      (ends : pastGaps rest = []) : Sequence document elements

/-- What can be read of a text can be skipped. -/
theorem skippedCharacters_of_characters {input cs rest : List Char}
    (characters : Characters input cs rest) : SkippedCharacters input rest := by
  induction characters with
  | done => exact .done
  | plain unescaped _ skipped => exact .plain unescaped skipped
  | named names _ skipped => exact .named names skipped
  | unit digits _ _ skipped => exact .unit digits skipped
  | pair first _ second _ _ skipped => exact .unit first (.unit second skipped)

theorem skipped_of_quoted {input rest : List Char} {s : String} (quoted : Quoted input s rest) :
    Skipped input rest := by
  obtain ⟨behind, quote, characters⟩ := quoted
  exact .scalar quote (.text (skippedCharacters_of_characters characters))

theorem skipped_of_null {input rest : List Char} (null : Null input rest) : Skipped input rest :=
  .scalar null (.word (by decide))

theorem separated_unique {first : Bool} {input start other : List Char}
    (separated : Separated first input start) (again : Separated first input other) :
    start = other := by
  cases first with
  | true => exact separated.symm.trans again
  | false =>
    obtain ⟨behind, comma, rfl⟩ := separated
    obtain ⟨behindToo, commaToo, rfl⟩ := again
    obtain ⟨-, rfl⟩ := List.cons.inj (comma.symm.trans commaToo)
    rfl

/-- Where an object ends, no other member begins. -/
theorem not_separated_of_closed {first : Bool} {input text rest : List Char}
    (closed : pastGaps input = '\x7d' :: rest) : ¬ Separated first input ('\x22' :: text) := by
  intro separated
  cases first with
  | true => cases closed.symm.trans separated
  | false =>
    obtain ⟨behind, comma, -⟩ := separated
    cases closed.symm.trans comma

/-- A text has one decomposition into the members of an object. -/
theorem spelled_unique {first : Bool} {input rest after : List Char}
    {members others : List (String × Span)} (one : Spelled first input members rest)
    (other : Spelled first input others after) : members = others ∧ rest = after := by
  induction one generalizing others with
  | nothing closed =>
    cases other with
    | nothing closedToo =>
      obtain ⟨-, rfl⟩ := List.cons.inj (closed.symm.trans closedToo)
      exact ⟨rfl, rfl⟩
    | more separated => exact absurd separated (not_separated_of_closed closed)
  | more separated characters colon skipped later inductionHypothesis =>
    cases other with
    | nothing closed => exact absurd separated (not_separated_of_closed closed)
    | more separatedToo charactersToo colonToo skippedToo laterToo =>
      cases separated_unique separated separatedToo
      obtain ⟨rfl, rfl⟩ := follows_textBody.unique characters charactersToo
      cases colon.symm.trans colonToo
      obtain ⟨-, rfl⟩ := Reader.follows_skip.unique (a := ()) (b := ()) skipped skippedToo
      obtain ⟨rfl, rfl⟩ := inductionHypothesis laterToo
      exact ⟨rfl, rfl⟩

end Grammar

variable {α σ ν : Type}

/-- The members of an object are gathered in a draft, one after the other. A key that no field has is
ignored, and a field that has been seen must not come again. What a value puts into a draft is left to a
rule of its own. -/
inductive Form.Gathers (form : Form σ α) (puts : String → σ → ν → σ → Prop) :
    σ → List (String × ν) → σ → Prop
  | nothing {draft : σ} : Gathers form puts draft [] draft
  | unknown {draft last : σ} {key : String} {value : ν} {members : List (String × ν)}
      (absent : form.field? key = none) (later : Gathers form puts draft members last) :
      Gathers form puts draft ((key, value) :: members) last
  | known {draft next last : σ} {key : String} {value : ν} {members : List (String × ν)}
      {field : Field σ} (found : form.field? key = some field) (fresh : field.filled draft = false)
      (put : puts key draft value next) (later : Gathers form puts next members last) :
      Gathers form puts draft ((key, value) :: members) last

/-- The elements of a list are put into the fields at their places, as many as there are. -/
inductive Form.Fills (puts : String → σ → ν → σ → Prop) : List (Field σ) → σ → List ν → σ → Prop
  | all {fields : List (Field σ)} {draft : σ} : Fills puts fields draft [] draft
  | more {field : Field σ} {fields : List (Field σ)} {draft next last : σ} {value : ν}
      {elements : List ν} (put : puts field.key draft value next)
      (later : Fills puts fields next elements last) :
      Fills puts (field :: fields) draft (value :: elements) last

namespace Form

variable {form : Form σ α}

/-- What a value puts into a draft. -/
def puts (form : Form σ α) (key : String) (draft : σ) (value : Value) (next : σ) : Prop :=
  ∃ field, form.field? key = some field ∧ field.ofValue value draft = .ok next

theorem addMembers_eq_ok_iff {draft last : σ} {members : List (String × Value)} :
    form.addMembers draft members = .ok last ↔ form.Gathers form.puts draft members last := by
  induction members generalizing draft with
  | nil =>
    rw [addMembers]
    constructor
    · rintro ⟨⟩
      exact .nothing
    · rintro ⟨⟩
      rfl
  | cons member members inductionHypothesis =>
    obtain ⟨key, value⟩ := member
    rw [addMembers, bind_eq_ok_iff]
    simp only [inductionHypothesis, addMember]
    cases found : form.field? key with
    | none =>
      simp only [Except.ok.injEq, exists_eq_left']
      constructor
      · exact .unknown found
      · intro gathers
        cases gathers with
        | unknown _ later => exact later
        | known known => cases found.symm.trans known
    | some field =>
      dsimp only
      cases fresh : field.filled draft with
      | true =>
        simp only [if_true, reduceCtorEq, false_and, exists_false, false_iff]
        intro gathers
        cases gathers with
        | unknown absent => cases found.symm.trans absent
        | known known isFresh =>
          cases found.symm.trans known
          cases fresh.symm.trans isFresh
      | false =>
        simp only [Bool.false_eq_true, if_false]
        constructor
        · rintro ⟨next, read, later⟩
          exact .known found fresh ⟨field, found, read⟩ later
        · intro gathers
          cases gathers with
          | unknown absent => cases found.symm.trans absent
          | known _ _ put later =>
            obtain ⟨declared, known, read⟩ := put
            cases found.symm.trans known
            exact ⟨_, read, later⟩

/-- What a part of a text puts into a draft, by the rules of the fields. -/
def putsSpan (values : String → σ → Rule σ) (key : String) (draft : σ) (span : Span) (next : σ) : Prop :=
  values key draft span.text next span.rest

/-- The members of a record in a text are gathered as those of the object in it. -/
theorem members_iff {values : String → σ → Rule σ}
    (skippable : ∀ {key draft input next rest}, values key draft input next rest → Skipped input rest)
    {first : Bool} {draft last : σ} {input rest : List Char} :
    Members (Member form values) first draft input last rest ↔
      ∃ members, Spelled first input members rest ∧
        form.Gathers (putsSpan values) draft members last := by
  constructor
  · intro members
    induction members with
    | nothing closed => exact ⟨[], .nothing closed, .nothing⟩
    | more separated characters member later inductionHypothesis =>
      obtain ⟨members, spelled, gathers⟩ := inductionHypothesis
      cases member with
      | unknown absent colon skipped =>
        exact ⟨_, .more separated characters colon skipped spelled, .unknown absent gathers⟩
      | known found fresh colon value =>
        exact ⟨_, .more separated characters colon (skippable value) spelled,
          .known found fresh value gathers⟩
  · rintro ⟨members, spelled, gathers⟩
    induction spelled generalizing draft with
    | nothing closed =>
      cases gathers
      exact .nothing closed
    | more separated characters colon skipped later inductionHypothesis =>
      cases gathers with
      | unknown absent gathers =>
        exact .more separated characters (.unknown absent colon skipped) (inductionHypothesis gathers)
      | known found fresh put gathers =>
        exact .more separated characters (.known found fresh colon put) (inductionHypothesis gathers)

/-- A document that is an object is decoded if its members can be gathered and finished. -/
theorem ofText_object_eq_ok_iff {values : String → σ → Rule σ} (formFollows : form.Follows values)
    (skippable : ∀ {key draft input next rest}, values key draft input next rest → Skipped input rest)
    {text : String} {members : List (String × Span)} (object : Object text.toList members) {a : α} :
    form.decoder.ofText text = .ok a ↔
      ∃ draft, form.Gathers (putsSpan values) form.blank members draft ∧ form.finish draft = .ok a := by
  obtain ⟨begins, spelled, ends⟩ := object
  rw [Decoder.ofText_eq_ok_iff (follows_reader formFollows)]
  constructor
  · rintro ⟨after, record, endsAfter⟩
    cases record with
    | object beginsToo record closed finished =>
      cases begins.symm.trans beginsToo
      obtain ⟨others, spelledToo, gathers⟩ := (members_iff skippable).mp record
      obtain ⟨rfl, rfl⟩ := spelled_unique spelled spelledToo
      exact ⟨_, gathers, finished⟩
    | list beginsToo => cases begins.symm.trans beginsToo
  · rintro ⟨draft, gathers, finished⟩
    exact ⟨_, .object begins ((members_iff skippable).mpr ⟨members, spelled, gathers⟩) rfl finished,
      ends⟩

/-- The fields of a record that is a list are filled with its elements. -/
theorem fields_of_fills {values : String → σ → Rule σ} {fields : List (Field σ)} {draft last : σ}
    {elements : List Span} (fills : Fills (putsSpan values) fields draft elements last) {first : Bool}
    {input middle : List Char} (spelled : Elements Part first input elements middle) :
    ∃ behind, Fields values fields first draft input last behind ∧ pastGaps behind = pastGaps middle := by
  induction fills generalizing first input with
  | @all fields draft =>
    cases spelled with
    | nothing closed =>
      cases fields with
      | nil => exact ⟨input, .all, by rw [closed]; rfl⟩
      | cons field fields => exact ⟨_, .nothing closed, rfl⟩
  | more put later inductionHypothesis =>
    cases spelled with
    | more separated head tail =>
      obtain ⟨rfl, skipped⟩ := head
      obtain ⟨behind, given, same⟩ := inductionHypothesis tail
      exact ⟨behind, .more separated put given, same⟩

/-- A document that is a list is decoded if its elements fill fields that can be finished. -/
theorem ofText_sequence {values : String → σ → Rule σ} (formFollows : form.Follows values)
    {text : String} {elements : List Span} (sequence : Sequence text.toList elements) {last : σ} {a : α}
    (fills : Fills (putsSpan values) form.fields form.blank elements last)
    (finished : form.finish last = .ok a) : form.decoder.ofText text = .ok a := by
  obtain ⟨begins, spelled, closed, ends⟩ := sequence
  obtain ⟨behind, given, same⟩ := fields_of_fills fills spelled
  exact (Decoder.ofText_eq_ok_iff (follows_reader formFollows)).mpr
    ⟨_, .list begins given (same.trans closed) finished, ends⟩

theorem ofValue_object_eq_ok_iff {members : List (String × Value)} {a : α} :
    form.decoder.ofValue (.object members) = .ok a ↔
      ∃ draft, form.Gathers form.puts form.blank members draft ∧ form.finish draft = .ok a := by
  have made (draft : σ) : form.ofMembers draft = .ok a ↔ form.finish draft = .ok a :=
    mapError_eq_ok_iff
  simp only [decoder, ofValue, bind_eq_ok_iff, addMembers_eq_ok_iff, made]

/-- Every field is the one that its key finds. -/
def Keyed (form : Form σ α) : Prop := ∀ field ∈ form.fields, form.field? field.key = some field

theorem addElements_of_fills {fields : List (Field σ)}
    (keyed : ∀ field ∈ fields, form.field? field.key = some field) {draft last : σ}
    {elements : List Value} (fills : Fills form.puts fields draft elements last) :
    addElements fields draft elements = .ok (last, []) := by
  induction fills with
  | @all fields => cases fields <;> rfl
  | more put later inductionHypothesis =>
    obtain ⟨field, found, read⟩ := put
    cases (keyed _ List.mem_cons_self).symm.trans found
    rw [addElements, read, ok_bind]
    exact inductionHypothesis fun other inside => keyed other (List.mem_cons_of_mem _ inside)

/-- A list that is at hand is decoded if its elements fill fields that can be finished. -/
theorem ofValue_array (keyed : form.Keyed) {elements : List Value} {last : σ} {a : α}
    (fills : Fills form.puts form.fields form.blank elements last)
    (finished : form.finish last = .ok a) : form.decoder.ofValue (.array elements) = .ok a := by
  simp [decoder, ofValue, addElements_of_fills keyed fills, ofElements, finished]

/-- No known key is repeated. -/
def Distinct (form : Form σ α) (members : List (String × ν)) : Prop :=
  members.Pairwise fun one other => one.1 = other.1 → form.field? one.1 = none

section

variable {puts : String → σ → ν → σ → Prop}

/-- Where no key is repeated, a known key is not among the members behind it. -/
theorem Distinct.lookup_eq_none {key : String} {value : ν} {members : List (String × ν)}
    (distinct : form.Distinct ((key, value) :: members)) (known : form.field? key ≠ none) :
    members.lookup key = none := by
  rw [List.lookup_eq_none_iff]
  intro member inside
  rw [bne_iff_ne]
  exact fun same => known ((List.pairwise_cons.mp distinct).1 member inside same)

/-- A known key is found wherever it stands. -/
theorem Distinct.lookup_of_mem {key : String} {value : ν} {members : List (String × ν)}
    (distinct : form.Distinct members) (known : form.field? key ≠ none)
    (member : (key, value) ∈ members) : members.lookup key = some value := by
  induction members with
  | nil => cases member
  | cons first members inductionHypothesis =>
    rcases List.mem_cons.mp member with rfl | inside
    · rw [List.lookup_cons, beq_self_eq_true]
    · obtain ⟨apart, later⟩ := List.pairwise_cons.mp distinct
      have differs : key ≠ first.1 := by
        rintro rfl
        exact known (apart _ inside rfl)
      rw [List.lookup_cons, beq_false_of_ne differs]
      exact inductionHypothesis later inside

/-- A key fills a place of the draft that no other key touches. -/
structure Slot (form : Form σ α) (puts : String → σ → ν → σ → Prop) (key : String) {β : Type}
    (get : σ → Option β) (tells : ν → β → Prop) : Prop where
  known : form.field? key ≠ none
  own : ∀ {draft value next}, puts key draft value next → ∃ b, tells value b ∧ get next = some b
  kept : ∀ {other draft value next}, puts other draft value next → other ≠ key → get next = get draft

namespace Slot

variable {β : Type} {key : String} {get : σ → Option β} {tells : ν → β → Prop} {draft last : σ}
  {members : List (String × ν)}

/-- Without its key a place is left as it is. -/
theorem get_of_absent (slot : form.Slot puts key get tells)
    (gathers : form.Gathers puts draft members last) (absent : members.lookup key = none) :
    get last = get draft := by
  rw [List.lookup_eq_none_iff] at absent
  induction gathers with
  | nothing => rfl
  | unknown _ _ inductionHypothesis =>
    exact inductionHypothesis fun member inside => absent member (List.mem_cons_of_mem _ inside)
  | known _ _ put _ inductionHypothesis =>
    have other := (bne_iff_ne.mp (absent _ List.mem_cons_self)).symm
    rw [inductionHypothesis fun member inside => absent member (List.mem_cons_of_mem _ inside),
      slot.kept put other]

/-- With its key a place holds what the value says, wherever the key stands. -/
theorem get_of_lookup (slot : form.Slot puts key get tells) (distinct : form.Distinct members)
    (gathers : form.Gathers puts draft members last) {value : ν}
    (found : members.lookup key = some value) : ∃ b, tells value b ∧ get last = some b := by
  induction gathers with
  | nothing => cases found
  | @unknown draft last name other members absent later inductionHypothesis =>
    have differs : key ≠ name := by
      rintro rfl
      exact slot.known absent
    rw [List.lookup_cons, beq_false_of_ne differs] at found
    exact inductionHypothesis (List.pairwise_cons.mp distinct).2 found
  | @known draft next last name other members field declared fresh put later inductionHypothesis =>
    by_cases same : key = name
    · subst same
      obtain rfl : other = value := by simpa using found
      obtain ⟨b, said, held⟩ := slot.own put
      exact ⟨b, said, (slot.get_of_absent later (distinct.lookup_eq_none slot.known)).trans held⟩
    · rw [List.lookup_cons, beq_false_of_ne same] at found
      exact inductionHypothesis (List.pairwise_cons.mp distinct).2 found

end Slot

/-- What the value of a key says, if there is one. -/
inductive Told {β : Type} (tells : ν → β → Prop) : Option ν → Option β → Prop
  | absent : Told tells none none
  | given {value : ν} {b : β} (said : tells value b) : Told tells (some value) (some b)

theorem Told.unique {β : Type} {tells : ν → β → Prop} {found : Option ν} {b other : Option β}
    (told : Told tells found b) (again : Told tells found other)
    (unique : ∀ value b other, tells value b → tells value other → b = other) : b = other := by
  cases told with
  | absent => cases again with | absent => rfl
  | given said => cases again with | given saidToo => rw [unique _ _ _ said saidToo]

theorem told_some_iff {β : Type} {tells : ν → β → Prop} {found : Option ν} {b : β} :
    Told tells found (some b) ↔ ∃ value, found = some value ∧ tells value b := by
  constructor
  · rintro (_ | said)
    exact ⟨_, rfl, said⟩
  · rintro ⟨value, rfl, said⟩
    exact .given said

theorem Told.exists_said {β : Type} {tells : ν → β → Prop} {found : Option ν} {b : Option β}
    (told : Told tells found b) {value : ν} (held : found = some value) : ∃ c, tells value c := by
  cases told with
  | absent => cases held
  | given said =>
    cases held
    exact ⟨_, said⟩

/-- Of members that stand in front, too, every key tells something. -/
theorem Told.exists_front {β : Type} {tells : ν → β → Prop} {front behind : List (String × ν)}
    {key : String} {b : Option β} (told : Told tells ((front ++ behind).lookup key) b) :
    ∃ c, Told tells (front.lookup key) c := by
  cases found : front.lookup key with
  | none => exact ⟨none, .absent⟩
  | some value =>
    obtain ⟨c, said⟩ := told.exists_said (by rw [List.lookup_append, found]; rfl)
    exact ⟨some c, .given said⟩

/-- A place that was empty holds what its key says, and nothing without it. -/
theorem Slot.told {β : Type} {key : String} {get : σ → Option β} {tells : ν → β → Prop}
    {draft last : σ} {members : List (String × ν)} (slot : form.Slot puts key get tells)
    (distinct : form.Distinct members) (gathers : form.Gathers puts draft members last)
    (empty : get draft = none) : Told tells (members.lookup key) (get last) := by
  cases found : members.lookup key with
  | none =>
    rw [slot.get_of_absent gathers found, empty]
    exact .absent
  | some value =>
    obtain ⟨b, said, held⟩ := slot.get_of_lookup distinct gathers found
    rw [held]
    exact .given said

/-- What is put into a field fills it, and leaves the other ones as they are. -/
structure Marks (form : Form σ α) (puts : String → σ → ν → σ → Prop) : Prop where
  filled : ∀ {key draft value next other field}, puts key draft value next →
    form.field? other = some field → field.filled next = (other == key || field.filled draft)

/-- The key of a field that is filled does not come again. -/
theorem Gathers.fst_ne_of_filled (marks : form.Marks puts) {draft last : σ}
    {members : List (String × ν)} (gathers : form.Gathers puts draft members last) {key : String}
    {field : Field σ} (found : form.field? key = some field) (filled : field.filled draft = true) :
    ∀ member ∈ members, member.1 ≠ key := by
  induction gathers with
  | nothing => nofun
  | unknown absent _ inductionHypothesis =>
    rintro member (- | ⟨_, inside⟩)
    · rintro rfl
      cases absent.symm.trans found
    · exact inductionHypothesis filled member inside
  | known declared fresh put _ inductionHypothesis =>
    rintro member (- | ⟨_, inside⟩)
    · rintro rfl
      cases declared.symm.trans found
      cases fresh.symm.trans filled
    · exact inductionHypothesis (by rw [marks.filled put found, filled, Bool.or_true]) member inside

/-- Where members are gathered, no known key is repeated. -/
theorem distinct_of_gathers (marks : form.Marks puts) {draft last : σ} {members : List (String × ν)}
    (gathers : form.Gathers puts draft members last) : form.Distinct members := by
  induction gathers with
  | nothing => exact .nil
  | unknown absent _ inductionHypothesis =>
    exact .cons (fun _ _ _ => absent) inductionHypothesis
  | known found _ put later inductionHypothesis =>
    have filled := marks.filled put found
    rw [beq_self_eq_true, Bool.true_or] at filled
    exact .cons (fun other inside same =>
      absurd same.symm (later.fst_ne_of_filled marks found filled other inside)) inductionHypothesis

/-- Members can be gathered if each known one can be put into any draft. -/
theorem exists_gathers (marks : form.Marks puts) {members : List (String × ν)}
    (distinct : form.Distinct members) {draft : σ}
    (fresh : ∀ member ∈ members, ∀ field, form.field? member.1 = some field →
      field.filled draft = false)
    (able : ∀ member ∈ members, form.field? member.1 ≠ none →
      ∀ draft, ∃ next, puts member.1 draft member.2 next) :
    ∃ last, form.Gathers puts draft members last := by
  induction members generalizing draft with
  | nil => exact ⟨draft, .nothing⟩
  | cons member members inductionHypothesis =>
    obtain ⟨key, value⟩ := member
    obtain ⟨apart, distinctLater⟩ := List.pairwise_cons.mp distinct
    have ableLater := fun other inside => able other (List.mem_cons_of_mem (key, value) inside)
    cases found : form.field? key with
    | none =>
      obtain ⟨last, later⟩ := inductionHypothesis distinctLater
        (fun other inside => fresh other (List.mem_cons_of_mem (key, value) inside)) ableLater
      exact ⟨last, .unknown found later⟩
    | some field =>
      obtain ⟨next, put⟩ := able (key, value) List.mem_cons_self (by simp [found]) draft
      obtain ⟨last, later⟩ : ∃ last, form.Gathers puts next members last := by
        apply inductionHypothesis distinctLater _ ableLater
        intro other inside declared known
        have differs : other.1 ≠ key := by
          intro same
          cases (apart other inside same.symm).symm.trans found
        rw [marks.filled put known, beq_false_of_ne differs, Bool.false_or]
        exact fresh other (List.mem_cons_of_mem (key, value) inside) declared known
      exact ⟨last, .known found (fresh (key, value) List.mem_cons_self field found) put later⟩

end

end Form

end ComponentInstall.Json
