import ComponentInstall.Proofs.Json.Independence
import Mathlib.Data.List.Nodup

/-!
# Records whose fields have places of their own

Most forms gather each field in a place of its own: what its decoder reads is put there, and no other
field touches it. All that has to be known of such a form are its places, and that what they read is
independent of where it stands. Then an object is decoded field by field. Each field is read from the text
at its own key, or left out if the key is, so the order of the members does not matter, nor what unknown
ones hold.
-/

namespace ComponentInstall.Json

open Grammar

/-- A place of a draft: its key, the decoder of what goes there with the rule it follows, and how the
place is read and filled. -/
structure Place (σ : Type) where
  Content : Type
  key : String
  decoder : Decoder Content
  rule : Rule Content
  get : σ → Option Content
  set : σ → Content → σ

variable {α σ : Type}

namespace Place

/-- The field of a place. -/
def field (place : Place σ) : Field σ := place.decoder.field place.key place.get place.set

/-- The decoder of a place follows its rule, which says the same wherever a value stands, and what is put
there is found there. -/
structure Sound (place : Place σ) : Prop where
  follows : place.decoder.reader.Follows place.rule
  independent : place.rule.Independent
  own : ∀ draft content, place.get (place.set draft content) = some content

/-- What the value at a key puts into a draft. -/
def values (places : List (Place σ)) (key : String) (draft : σ) : Rule σ := fun input next rest =>
  ∃ place ∈ places, place.key = key ∧ ∃ content, place.rule input content rest ∧
    place.set draft content = next

/-- What a part of a text says of a place. -/
def SaysAt (place : Place σ) (span : Span) (content : place.Content) : Prop :=
  place.rule span.text content span.rest

/-- What a text says of a place. -/
def Says (place : Place σ) (text : List Char) (content : place.Content) : Prop :=
  place.rule text content []

/-- What a text puts into a draft at a key. -/
def putsText (places : List (Place σ)) (key : String) (draft : σ) (text : List Char) (next : σ) : Prop :=
  values places key draft text next []

end Place

/-- The fields of a form have places of their own, which are empty at first and hold all there is in a
draft. -/
structure Form.Placed (form : Form σ α) (places : List (Place σ)) : Prop where
  fields_eq : form.fields = places.map Place.field
  nodup : (places.map Place.key).Nodup
  sound : ∀ place ∈ places, place.Sound
  blank : ∀ place ∈ places, place.get form.blank = none
  kept : ∀ place ∈ places, ∀ other ∈ places, place.key ≠ other.key →
    ∀ draft content, place.get (other.set draft content) = place.get draft
  ext : ∀ {draft other}, (∀ place ∈ places, place.get draft = place.get other) → draft = other

/-- A draft holds what the texts at the keys of an object say, and no known key is repeated. -/
def Form.Tells (form : Form σ α) (places : List (Place σ)) (members : List (String × List Char))
    (draft : σ) : Prop :=
  form.Distinct members ∧
    ∀ place ∈ places, Told place.Says (members.lookup place.key) (place.get draft)

namespace Form.Placed

variable {form : Form σ α} {places : List (Place σ)}

theorem eq_of_key (placed : form.Placed places) {place other : Place σ} (member : place ∈ places)
    (otherMember : other ∈ places) (same : place.key = other.key) : place = other :=
  List.inj_on_of_nodup_map placed.nodup member otherMember same

theorem exists_place (placed : form.Placed places) {key : String} {field : Field σ}
    (found : form.field? key = some field) :
    ∃ place ∈ places, place.key = key ∧ place.field = field := by
  obtain ⟨declared, rfl⟩ := of_field? found
  rw [placed.fields_eq] at declared
  obtain ⟨place, member, rfl⟩ := List.mem_map.mp declared
  exact ⟨place, member, rfl, rfl⟩

/-- The keys of the places are those that the form knows. -/
theorem known (placed : form.Placed places) {place : Place σ} (member : place ∈ places) :
    form.field? place.key ≠ none := by
  have declared : place.field ∈ form.fields := placed.fields_eq ▸ List.mem_map_of_mem member
  intro unknown
  have differs := List.find?_eq_none.mp unknown _ declared
  exact differs (beq_self_eq_true place.key)

theorem independent (placed : form.Placed places) (key : String) (draft : σ) :
    (Place.values places key draft).Independent where
  skippable := by
    rintro input next rest ⟨place, member, rfl, content, said, rfl⟩
    exact (placed.sound place member).independent.skippable said
  gapless := by
    intro input next rest
    constructor
    · rintro ⟨place, member, same, content, said, put⟩
      exact ⟨place, member, same, content, (placed.sound place member).independent.gapless.mp said, put⟩
    · rintro ⟨place, member, same, content, said, put⟩
      exact ⟨place, member, same, content, (placed.sound place member).independent.gapless.mpr said, put⟩
  moves := by
    rintro input next rest ⟨place, member, same, content, said, put⟩
    apply ((placed.sound place member).independent.moves said).imp
    exact fun _ said => ⟨place, member, same, content, said, put⟩

theorem follows_form (placed : form.Placed places) : form.Follows (Place.values places) where
  follows := by
    intro field declared draft
    rw [placed.fields_eq] at declared
    obtain ⟨place, member, rfl⟩ := List.mem_map.mp declared
    refine ((placed.sound place member).follows.map (place.set draft)).congr ?_
    intro input next rest
    constructor
    · rintro ⟨content, said, put⟩
      exact ⟨place, member, rfl, content, said, put⟩
    · rintro ⟨other, otherMember, same, content, said, put⟩
      obtain rfl := placed.eq_of_key otherMember member same
      exact ⟨content, said, put⟩
  consumes _ _ draft := fun said => length_lt_of_skipped ((placed.independent _ draft).skippable said)
  opens _ _ draft := fun said => first_of_skipped ((placed.independent _ draft).skippable said)

/-- The rule of a form whose fields have places. -/
theorem follows_reader (placed : form.Placed places) :
    form.decoder.reader.Follows (Record form (Place.values places)) :=
  Form.follows_reader placed.follows_form

theorem slot (placed : form.Placed places) {place : Place σ} (member : place ∈ places) :
    form.Slot (putsSpan (Place.values places)) place.key place.get place.SaysAt where
  known := placed.known member
  own := by
    rintro draft span next ⟨other, otherMember, same, content, said, rfl⟩
    obtain rfl := placed.eq_of_key otherMember member same
    exact ⟨content, said, (placed.sound _ otherMember).own draft content⟩
  kept := by
    rintro key draft span next ⟨other, otherMember, rfl, content, -, rfl⟩ differs
    exact placed.kept place member other otherMember differs.symm draft content

theorem marks (placed : form.Placed places) : form.Marks (putsSpan (Place.values places)) where
  filled := by
    rintro _ draft span next key field ⟨other, otherMember, rfl, content, -, rfl⟩ found
    obtain ⟨place, member, rfl, rfl⟩ := placed.exists_place found
    by_cases same : place.key = other.key
    · obtain rfl := placed.eq_of_key member otherMember same
      simp [Place.field, Decoder.field, (placed.sound _ member).own]
    · simp [Place.field, Decoder.field, placed.kept place member other otherMember same,
        beq_false_of_ne same]

/-- Members are gathered in a draft if no known key is repeated and each place holds what the value at
its key says. -/
theorem gathers_iff (placed : form.Placed places) {members : List (String × Span)} {draft : σ} :
    form.Gathers (putsSpan (Place.values places)) form.blank members draft ↔
      form.Distinct members ∧
        ∀ place ∈ places, Told place.SaysAt (members.lookup place.key) (place.get draft) := by
  constructor
  · intro gathers
    have distinct := distinct_of_gathers placed.marks gathers
    exact ⟨distinct, fun place member =>
      (placed.slot member).told distinct gathers (placed.blank place member)⟩
  · rintro ⟨distinct, told⟩
    -- The members can be gathered in some draft, and that draft holds the same in every place.
    obtain ⟨last, gathers⟩ : ∃ last,
        form.Gathers (putsSpan (Place.values places)) form.blank members last := by
      apply exists_gathers placed.marks distinct
      · intro given _ field found
        obtain ⟨place, member, -, rfl⟩ := placed.exists_place found
        simp [Place.field, Decoder.field, placed.blank place member]
      · intro given inside known before
        obtain ⟨field, found⟩ := Option.ne_none_iff_exists'.mp known
        obtain ⟨place, member, same, -⟩ := placed.exists_place found
        have found := distinct.lookup_of_mem known inside
        rw [← same] at found
        obtain ⟨content, said⟩ := (told place member).exists_said found
        exact ⟨_, place, member, same, content, said, rfl⟩
    have same : last = draft := by
      apply placed.ext
      intro place member
      apply ((placed.slot member).told distinct gathers (placed.blank place member)).unique
        (told place member)
      intro span content other said saidToo
      exact ((placed.sound place member).follows.unique said saidToo).1
    exact same ▸ gathers

/-- What is said of a place in its part of a text is said in the text that is written there. -/
theorem told_written_iff (placed : form.Placed places) {place : Place σ} (member : place ∈ places)
    {found : Option Span} (holds : ∀ span, found = some span → span.Holds)
    {content : Option place.Content} :
    Told place.Says (found.map Span.written) content ↔ Told place.SaysAt found content := by
  have independent := (placed.sound place member).independent
  cases found with
  | none =>
    constructor
    · rintro (_ | _)
      exact .absent
    · rintro (_ | _)
      exact .absent
  | some span =>
    constructor
    · rintro (_ | said)
      exact .given ((independent.written_iff (holds span rfl)).mp said)
    · rintro (_ | said)
      exact .given ((independent.written_iff (holds span rfl)).mpr said)

theorem distinct_texts_iff {members : List (String × Span)} :
    form.Distinct (texts members) ↔ form.Distinct members := List.pairwise_map

theorem gathers_iff_tells (placed : form.Placed places) {document : List Char}
    {spans : List (String × Span)} (object : Object document spans) {draft : σ} :
    form.Gathers (putsSpan (Place.values places)) form.blank spans draft ↔
      form.Tells places (texts spans) draft := by
  obtain ⟨begins, spelled, ends⟩ := object
  have holds (place : Place σ) (span : Span) (found : spans.lookup place.key = some span) :
      span.Holds := holds_of_spelled spelled _ (mem_of_lookup found)
  rw [placed.gathers_iff, Tells, distinct_texts_iff]
  simp only [lookup_texts]
  apply and_congr_right'
  exact forall₂_congr fun place member => (placed.told_written_iff member (holds place)).symm

/-- An object is decoded to what its texts tell, place by place. -/
theorem ofText_of_writes (placed : form.Placed places) {text : String}
    {members : List (String × List Char)} (writes : Writes text.toList members) {a : α} :
    form.decoder.ofText text = .ok a ↔
      ∃ draft, form.Tells places members draft ∧ form.finish draft = .ok a := by
  obtain ⟨spans, object, rfl⟩ := writes
  rw [ofText_object_eq_ok_iff placed.follows_form (placed.independent _ _).skippable object]
  simp only [placed.gathers_iff_tells object]

theorem fills_written_iff (placed : form.Placed places) {spans : List Span}
    (holds : ∀ span ∈ spans, span.Holds) {fields : List (Field σ)} {draft last : σ} :
    Fills (Place.putsText places) fields draft (spans.map Span.written) last ↔
      Fills (putsSpan (Place.values places)) fields draft spans last := by
  induction spans generalizing fields draft with
  | nil =>
    constructor
    · rintro (_ | _)
      exact .all
    · rintro (_ | _)
      exact .all
  | cons span spans inductionHypothesis =>
    obtain ⟨here, later⟩ := List.forall_mem_cons.mp holds
    constructor
    · rintro (_ | ⟨put, fills⟩)
      exact .more (((placed.independent _ _).written_iff here).mp put)
        ((inductionHypothesis later).mp fills)
    · rintro (_ | ⟨put, fills⟩)
      exact .more (((placed.independent _ _).written_iff here).mpr put)
        ((inductionHypothesis later).mpr fills)

/-- A document is decoded if it is an object whose texts tell a draft that can be finished, or a list
whose texts fill one. -/
theorem ofText_eq_ok_iff (placed : form.Placed places) {text : String} {a : α} :
    form.decoder.ofText text = .ok a ↔
      (∃ members draft, Writes text.toList members ∧ form.Tells places members draft ∧
        form.finish draft = .ok a) ∨
      ∃ elements draft, Lists text.toList elements ∧
        Fills (Place.putsText places) form.fields form.blank elements draft ∧
        form.finish draft = .ok a := by
  have skippable {key : String} {draft next : σ} {input rest : List Char}
      (value : Place.values places key draft input next rest) : Skipped input rest :=
    (placed.independent key draft).skippable value
  constructor
  · intro decoded
    obtain ⟨rest, record, ends⟩ := (Decoder.ofText_eq_ok_iff placed.follows_reader).mp decoded
    cases record with
    | object begins members closed finished =>
      obtain ⟨spans, spelled, gathers⟩ := (members_iff skippable).mp members
      obtain ⟨tail, rfl⟩ := end_of_spelled spelled
      obtain rfl : tail = rest := (List.cons.inj closed).2
      have object : Object text.toList spans := ⟨begins, spelled, ends⟩
      exact .inl ⟨_, _, ⟨spans, object, rfl⟩, (placed.gathers_iff_tells object).mp gathers, finished⟩
    | list begins given closed finished =>
      obtain ⟨spans, spelled, fills⟩ := fills_of_fields skippable given closed
      have holds := holds_of_elements spelled
      exact .inr ⟨_, _, ⟨spans, ⟨begins, spelled, rfl, ends⟩, rfl⟩,
        (placed.fills_written_iff holds).mpr fills, finished⟩
  · rintro (⟨members, draft, writes, tells, finished⟩ |
      ⟨elements, draft, ⟨spans, ⟨begins, spelled, closed, ends⟩, rfl⟩, fills, finished⟩)
    · exact (placed.ofText_of_writes writes).mpr ⟨draft, tells, finished⟩
    · exact ofText_sequence placed.follows_form ⟨begins, spelled, closed, ends⟩
        ((placed.fills_written_iff (holds_of_elements spelled)).mp fills) finished

/-- A record that is the value of a field is read as a document of its own. -/
theorem record_iff_ofText (placed : form.Placed places) {value : List Char}
    (skipped : Skipped value []) {a : α} :
    Record form (Place.values places) value a [] ↔
      form.decoder.ofText (String.ofList value) = .ok a := by
  rw [Decoder.ofText_eq_ok_iff placed.follows_reader, String.toList_ofList]
  constructor
  · exact fun record => ⟨[], record, rfl⟩
  · rintro ⟨rest, record, -⟩
    have skippedToo := (Rule.Independent.record placed.independent).skippable record
    obtain ⟨-, rfl⟩ := Reader.follows_skip.unique (a := ()) (b := ()) skipped skippedToo
    exact record

end Form.Placed

section

variable {ν : Type} {form : Form σ α} {alike : String → ν → ν → Prop}

/-- Members that are the same but for their order, for unknown ones and for values that are alike. -/
inductive Form.Rearranged (form : Form σ α) (alike : String → ν → ν → Prop) :
    List (String × ν) → List (String × ν) → Prop
  | moved {members others : List (String × ν)} (perm : members.Perm others) :
      Rearranged form alike members others
  | added {key : String} {value : ν} {members : List (String × ν)} (unknown : form.field? key = none) :
      Rearranged form alike members ((key, value) :: members)
  | rewritten {key : String} {value other : ν} {members : List (String × ν)}
      (same : alike key value other) :
      Rearranged form alike ((key, value) :: members) ((key, other) :: members)
  | back {members others : List (String × ν)} (rearranged : Rearranged form alike others members) :
      Rearranged form alike members others
  | onward {members between others : List (String × ν)} (first : Rearranged form alike members between)
      (later : Rearranged form alike between others) : Rearranged form alike members others

namespace Form

/-- Where no known key is repeated, the order of the members does not matter. -/
theorem Distinct.lookup_of_perm {members others : List (String × ν)} (distinct : form.Distinct members)
    (perm : members.Perm others) {key : String} (known : form.field? key ≠ none) :
    members.lookup key = others.lookup key := by
  have distinctToo : form.Distinct others :=
    perm.pairwise distinct fun apart same => (congrArg form.field? same).trans (apart same.symm)
  cases found : members.lookup key with
  | some value =>
    exact (distinctToo.lookup_of_mem known (perm.mem_iff.mp (mem_of_lookup found))).symm
  | none =>
    rw [List.lookup_eq_none_iff] at found
    exact (List.lookup_eq_none_iff.mpr fun member inside => found member (perm.mem_iff.mpr inside)).symm

namespace Rearranged

variable {members others : List (String × ν)}

theorem distinct_iff (rearranged : form.Rearranged alike members others) :
    form.Distinct members ↔ form.Distinct others := by
  have symmetric {one other : String × ν} (apart : one.1 = other.1 → form.field? one.1 = none)
      (same : other.1 = one.1) : form.field? other.1 = none :=
    (congrArg form.field? same).trans (apart same.symm)
  induction rearranged with
  | moved perm => exact perm.pairwise_iff symmetric
  | added unknown =>
    constructor
    · exact fun distinct => .cons (fun _ _ _ => unknown) distinct
    · exact fun distinct => (List.pairwise_cons.mp distinct).2
  | rewritten same =>
    constructor
    · exact fun distinct => .cons (List.pairwise_cons.mp distinct).1 (List.pairwise_cons.mp distinct).2
    · exact fun distinct => .cons (List.pairwise_cons.mp distinct).1 (List.pairwise_cons.mp distinct).2
  | back _ inductionHypothesis => exact inductionHypothesis.symm
  | onward _ _ first later => exact first.trans later

/-- What holds of the value at a known key holds of it in another arrangement, if it does not tell apart
values that are alike. -/
theorem lookup_iff (rearranged : form.Rearranged alike members others)
    (distinct : form.Distinct members) {key : String} (known : form.field? key ≠ none)
    {P : Option ν → Prop}
    (respects : ∀ {value other}, alike key value other → (P (some value) ↔ P (some other))) :
    P (members.lookup key) ↔ P (others.lookup key) := by
  induction rearranged with
  | moved perm => rw [distinct.lookup_of_perm perm known]
  | @added name value members unknown =>
    have differs : key ≠ name := by
      rintro rfl
      exact known unknown
    rw [List.lookup_cons, beq_false_of_ne differs]
  | @rewritten name value other members same =>
    by_cases here : key = name
    · subst here
      simpa using respects same
    · rw [List.lookup_cons, List.lookup_cons, beq_false_of_ne here]
  | back rearranged inductionHypothesis =>
    exact (inductionHypothesis (rearranged.distinct_iff.mpr distinct)).symm
  | onward first _ inductionHypothesis later =>
    exact (inductionHypothesis distinct).trans (later (first.distinct_iff.mp distinct))

end Rearranged

end Form

end

end ComponentInstall.Json
