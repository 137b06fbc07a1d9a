import ComponentInstall.Proofs.Json.Moving

/-!
# Values that are read alone

A rule of values is independent if what it allows is a value, and neither the gaps before it nor what
stands behind it matter. Then it makes no difference whether a value is read where it stands, in an object
or in a list, or out of the text that is written there and nothing else. Records are independent if the
values of their fields are.

So an object is given by its keys and the texts of their values: `Writes` says this of a document, and
`Lists` the same of a list.
-/

namespace ComponentInstall.Json

open Grammar

variable {α β σ : Type}

/-- What a rule allows is a value, and neither the gaps before it nor what stands behind it matter. -/
structure Rule.Independent (rule : Rule α) : Prop where
  skippable : ∀ {input a rest}, rule input a rest → Skipped input rest
  gapless : ∀ {input a rest}, rule (pastGaps input) a rest ↔ rule input a rest
  moves : ∀ {input a rest}, rule input a rest →
    Moves Stops (fun input rest => rule input a rest) input rest

/-- What is written in a part of a text, without the gaps before it. -/
def Span.written (span : Span) : List Char :=
  (pastGaps span.text).take ((pastGaps span.text).length - span.rest.length)

/-- A part of a text that holds a value up to its end. -/
structure Span.Holds (span : Span) : Prop where
  value : Skipped span.text span.rest
  stops : Stops span.rest

theorem Span.Holds.pastGaps_eq {span : Span} (holds : span.Holds) :
    pastGaps span.text = span.written ++ span.rest := by
  obtain ⟨written, same, -⟩ := moves_skipped (skipped_pastGaps.mpr holds.value)
  simp [Span.written, same]

/-- What an independent rule says of a value, it says of what is written there. -/
theorem Rule.Independent.written_iff {rule : Rule α} (independent : rule.Independent) {span : Span}
    (holds : span.Holds) {a : α} : rule span.written a [] ↔ rule span.text a span.rest := by
  have gapless : rule (pastGaps span.text) a span.rest ↔ rule span.text a span.rest :=
    independent.gapless
  rw [← gapless, holds.pastGaps_eq]
  constructor
  · intro said
    obtain ⟨written, same, moved⟩ := independent.moves said
    rw [List.append_nil] at same
    rw [same]
    exact moved span.rest holds.stops
  · intro said
    obtain ⟨written, same, moved⟩ := independent.moves said
    rw [List.append_cancel_right same]
    simpa using moved [] stops_nil

namespace Rule.Independent

theorem congr {rule other : Rule α} (independent : rule.Independent)
    (same : ∀ input a rest, rule input a rest ↔ other input a rest) : other.Independent where
  skippable said := independent.skippable ((same _ _ _).mpr said)
  gapless := by simp only [← same, independent.gapless, implies_true]
  moves said := (independent.moves ((same _ _ _).mpr said)).imp fun _ said => (same _ _ _).mp said

theorem quoted : Rule.Independent Quoted where
  skippable := skipped_of_quoted
  gapless := by simp only [Quoted, pastGaps_pastGaps, implies_true]
  moves said := (moves_quoted said).of_anything

theorem skipped : Rule.Independent fun input (_ : Unit) rest => Skipped input rest where
  skippable := id
  gapless := skipped_pastGaps
  moves := moves_skipped

theorem map {rule : Rule α} (independent : rule.Independent) (change : α → β) :
    Rule.Independent fun input b rest => ∃ a, rule input a rest ∧ change a = b where
  skippable := by
    rintro input _ rest ⟨a, said, rfl⟩
    exact independent.skippable said
  gapless := by simp only [independent.gapless, implies_true]
  moves := by
    rintro input _ rest ⟨a, said, rfl⟩
    exact (independent.moves said).imp fun _ said => ⟨a, said, rfl⟩

/-- Data that may be absent is independent if the data is. -/
theorem optional {rule : Rule α} (independent : rule.Independent) :
    Rule.Independent fun input result rest =>
      Null input rest ∧ result = none ∨ ∃ a, rule input a rest ∧ result = some a where
  skippable := by
    rintro input _ rest (⟨null, -⟩ | ⟨a, said, -⟩)
    · exact skipped_of_null null
    · exact independent.skippable said
  gapless := by simp only [Null, pastGaps_pastGaps, independent.gapless, implies_true]
  moves := by
    rintro input _ rest (⟨null, rfl⟩ | ⟨a, said, rfl⟩)
    · exact (moves_word null).imp fun _ null => .inl ⟨null, rfl⟩
    · exact (independent.moves said).imp fun _ said => .inr ⟨a, said, rfl⟩

end Rule.Independent

section

variable {form : Form σ α} {values : String → σ → Rule σ}

/-- Members are those of an object that is skipped. -/
theorem skipped_of_spelled {first : Bool} {input middle rest : List Char}
    {members : List (String × Span)} (spelled : Spelled first input members middle)
    (closed : pastGaps middle = '\x7d' :: rest) :
    if first then Inside .object input rest else Behind .object input rest := by
  induction spelled with
  | @nothing first input after ends =>
    obtain rfl : after = rest := (List.cons.inj closed).2
    cases first with
    | true => exact .nothing ends
    | false => exact .nothing ends
  | @more first input text behind value middle after key members separated characters colon skipped
      later inductionHypothesis =>
    have lead {start : List Char} (quote : pastGaps start = '\x22' :: text) : Lead .object start value :=
      ⟨text, behind, quote, skippedCharacters_of_characters characters, colon⟩
    cases first with
    | true => exact .values (lead separated) skipped (inductionHypothesis closed)
    | false =>
      obtain ⟨start, comma, quote⟩ := separated
      exact .values comma (lead quote) skipped (inductionHypothesis closed)

/-- Elements are those of a list that is skipped. -/
theorem skipped_of_elements {first : Bool} {input middle rest : List Char} {elements : List Span}
    (spelled : Elements Part first input elements middle) (closed : pastGaps middle = ']' :: rest) :
    if first then Inside .list input rest else Behind .list input rest := by
  induction spelled with
  | @nothing first input after ends =>
    obtain rfl : after = rest := (List.cons.inj closed).2
    cases first with
    | true => exact .nothing ends
    | false => exact .nothing ends
  | @more first input start middle after span spans separated head tail inductionHypothesis =>
    obtain ⟨rfl, skipped⟩ := head
    cases first with
    | true =>
      obtain rfl : pastGaps input = start := separated
      exact .values rfl (skipped_pastGaps.mp skipped) (inductionHypothesis closed)
    | false =>
      obtain ⟨behind, comma, rfl⟩ := separated
      exact .values comma rfl (skipped_pastGaps.mp skipped) (inductionHypothesis closed)

/-- The fields of a record that is a list are filled with its elements, and with all of them. -/
theorem fills_of_fields (skippable : ∀ {key draft input next rest}, values key draft input next rest →
      Skipped input rest) {fields : List (Field σ)} {first : Bool} {draft last : σ}
    {input middle rest : List Char} (given : Fields values fields first draft input last middle)
    (closed : pastGaps middle = ']' :: rest) :
    ∃ elements, Elements Part first input elements (']' :: rest) ∧
      Form.Fills (Form.putsSpan values) fields draft elements last := by
  induction given with
  | all => exact ⟨[], .nothing closed, .all⟩
  | nothing ends =>
    obtain rfl := (List.cons.inj closed).2
    exact ⟨[], .nothing ends, .all⟩
  | more separated value later inductionHypothesis =>
    obtain ⟨elements, spelled, fills⟩ := inductionHypothesis closed
    exact ⟨_, .more separated ⟨rfl, skippable value⟩ spelled, .more value fills⟩

theorem moves_separated {first : Bool} {input rest : List Char} {c : Char}
    (separated : Separated first input (c :: rest)) :
    Moves Anything (fun input rest => Separated first input (c :: rest)) input rest := by
  cases first with
  | true => exact Moves.sign separated
  | false =>
    obtain ⟨behind, comma, begins⟩ := separated
    exact (Moves.sign begins).behindSign comma fun _ comma begins => ⟨_, comma, begins⟩

theorem moves_member (independent : ∀ key draft, (values key draft).Independent) {key : String}
    {draft next : σ} {input rest : List Char} (member : Member form values key draft input next rest) :
    Moves Stops (fun input rest => Member form values key draft input next rest) input rest := by
  cases member with
  | unknown absent colon skipped =>
    exact (moves_skipped skipped).behindSign colon
      fun _ colon skipped => .unknown absent colon skipped
  | known found fresh colon value =>
    exact ((independent key draft).moves value).behindSign colon
      fun _ colon value => .known found fresh colon value

/-- A part up to a closing sign. -/
def Ended (sign : Char) (part : List Char → List Char → Prop) (input rest : List Char) : Prop :=
  ∃ middle, part input middle ∧ pastGaps middle = sign :: rest

theorem stops_of_separated {input start : List Char} (separated : Separated false input start) :
    Stops input := by
  obtain ⟨behind, comma, -⟩ := separated
  exact stops_of_sign comma (by decide)

theorem stops_of_members {member : String → σ → Rule σ} {draft last : σ} {input rest : List Char}
    (ended : Ended '\x7d' (fun input middle => Members member false draft input last middle)
      input rest) : Stops input := by
  obtain ⟨middle, members, closed⟩ := ended
  cases members with
  | nothing ends => exact stops_of_sign ends (by decide)
  | more separated => exact stops_of_separated separated

theorem stops_of_fields {fields : List (Field σ)} {draft last : σ} {input rest : List Char}
    (ended : Ended ']' (fun input middle => Fields values fields false draft input last middle)
      input rest) : Stops input := by
  obtain ⟨middle, given, closed⟩ := ended
  cases given with
  | all => exact stops_of_sign closed (by decide)
  | nothing ends => exact stops_of_sign ends (by decide)
  | more separated => exact stops_of_separated separated

/-- The members of an object move with its end. The induction goes along the members, and behind each of
them, up to the closing sign, comes what the induction hypothesis moves. -/
theorem moves_members (independent : ∀ key draft, (values key draft).Independent)
    {first : Bool} {draft last : σ} {input middle rest : List Char}
    (members : Members (Member form values) first draft input last middle)
    (closed : pastGaps middle = '\x7d' :: rest) :
    Moves Anything (Ended '\x7d' fun input middle =>
      Members (Member form values) first draft input last middle) input rest := by
  induction members with
  | nothing ends =>
    obtain rfl := (List.cons.inj closed).2
    apply (Moves.sign ends).imp
    exact fun _ ends => ⟨_, .nothing ends, rfl⟩
  | @more first draft next last input text behind middle after key separated characters value later
      inductionHypothesis =>
    let Later := Ended '\x7d' fun input middle =>
      Members (Member form values) false next input last middle
    have behindKey : Moves Anything (fun behind rest => ∃ middle,
        Member form values key draft behind next middle ∧ Later middle rest) behind rest := by
      apply (moves_member independent value).followed (inductionHypothesis closed)
        fun _ => stops_of_members
      exact fun _ value later => ⟨_, value, later⟩
    have behindQuote : Moves Anything (fun text rest => ∃ behind middle,
        Characters text key.toList behind ∧ Member form values key draft behind next middle ∧
          Later middle rest) text rest := by
      apply (moves_characters characters).followed behindKey fun _ _ => trivial
      rintro text behind rest - characters ⟨middle, value, later⟩
      exact ⟨behind, middle, characters, value, later⟩
    apply (moves_separated separated).followed behindQuote fun _ _ => trivial
    rintro input text rest - separated ⟨behind, middle, characters, value, after, later, closed⟩
    exact ⟨after, .more separated characters value later, closed⟩

/-- An element moves with what stands before it. -/
theorem moves_element {rule : Rule α} (independent : rule.Independent) {first : Bool} {a : α}
    {input start rest : List Char} (separated : Separated first input start)
    (said : rule start a rest) :
    Moves Stops (fun input rest => ∃ start, Separated first input start ∧ rule start a rest)
      input rest := by
  cases first with
  | true =>
    obtain rfl : pastGaps input = start := separated
    apply (independent.moves (independent.gapless.mp said)).imp
    exact fun _ said => ⟨_, rfl, independent.gapless.mpr said⟩
  | false =>
    obtain ⟨behind, comma, rfl⟩ := separated
    exact (independent.moves (independent.gapless.mp said)).behindSign comma
      fun _ comma said => ⟨_, ⟨_, comma, rfl⟩, independent.gapless.mpr said⟩

/-- The fields of a record that is a list move with its end. -/
theorem moves_fields (independent : ∀ key draft, (values key draft).Independent)
    {fields : List (Field σ)} {first : Bool} {draft last : σ} {input middle rest : List Char}
    (given : Fields values fields first draft input last middle)
    (closed : pastGaps middle = ']' :: rest) :
    Moves Anything (Ended ']' fun input middle => Fields values fields first draft input last middle)
      input rest := by
  induction given with
  | all =>
    apply (Moves.sign closed).imp
    exact fun _ closed => ⟨_, .all, closed⟩
  | nothing ends =>
    obtain rfl := (List.cons.inj closed).2
    apply (Moves.sign ends).imp
    exact fun _ ends => ⟨_, .nothing ends, rfl⟩
  | more separated value later inductionHypothesis =>
    apply (moves_element (independent _ _) separated value).followed (inductionHypothesis closed)
      fun _ => stops_of_fields
    rintro input middle rest - ⟨start, separated, value⟩ ⟨after, later, closed⟩
    exact ⟨after, .more separated value later, closed⟩

/-- Records are independent if the values of their fields are. -/
theorem Rule.Independent.record (independent : ∀ key draft, (values key draft).Independent) :
    Rule.Independent (Record form values) where
  skippable := by
    intro input a rest record
    have skippable {key : String} {draft next : σ} {input rest : List Char}
        (value : values key draft input next rest) : Skipped input rest :=
      (independent key draft).skippable value
    cases record with
    | object begins members ends finished =>
      obtain ⟨spans, spelled, -⟩ := (Form.members_iff skippable).mp members
      exact (skipped_of_framed .object begins).mpr (skipped_of_spelled spelled ends)
    | list begins given ends finished =>
      obtain ⟨elements, spelled, -⟩ := fills_of_fields skippable given ends
      exact (skipped_of_framed .list begins).mpr (skipped_of_elements spelled rfl)
  gapless := by
    intro input a rest
    constructor
    · rintro (⟨begins, members, ends, finished⟩ | ⟨begins, given, ends, finished⟩)
      · exact .object (pastGaps_pastGaps input ▸ begins) members ends finished
      · exact .list (pastGaps_pastGaps input ▸ begins) given ends finished
    · rintro (⟨begins, members, ends, finished⟩ | ⟨begins, given, ends, finished⟩)
      · exact .object ((pastGaps_pastGaps input).trans begins) members ends finished
      · exact .list ((pastGaps_pastGaps input).trans begins) given ends finished
  moves := by
    intro input a rest record
    apply Moves.of_anything
    cases record with
    | object begins members ends finished =>
      apply (moves_members independent members ends).behindSign begins
      rintro input inside rest - begins ⟨middle, members, ends⟩
      exact .object begins members ends finished
    | list begins given ends finished =>
      apply (moves_fields independent given ends).behindSign begins
      rintro input inside rest - begins ⟨middle, given, ends⟩
      exact .list begins given ends finished

end

theorem end_of_spelled {first : Bool} {input rest : List Char} {members : List (String × Span)}
    (spelled : Spelled first input members rest) : ∃ tail, rest = '\x7d' :: tail := by
  induction spelled with
  | nothing => exact ⟨_, rfl⟩
  | more _ _ _ _ _ inductionHypothesis => exact inductionHypothesis

/-- The values of an object stand where they may end. -/
theorem holds_of_spelled {first : Bool} {input rest : List Char} {members : List (String × Span)}
    (spelled : Spelled first input members rest) : ∀ member ∈ members, member.2.Holds := by
  induction spelled with
  | nothing => nofun
  | more _ _ _ skipped later inductionHypothesis =>
    intro member inside
    rcases List.mem_cons.mp inside with rfl | inside
    · refine ⟨skipped, ?_⟩
      cases later with
      | nothing closed => exact stops_of_sign closed (by decide)
      | more separated => exact stops_of_separated separated
    · exact inductionHypothesis member inside

theorem holds_of_elements {first : Bool} {input rest : List Char} {elements : List Span}
    (spelled : Elements Part first input elements rest) : ∀ element ∈ elements, element.Holds := by
  induction spelled with
  | nothing => nofun
  | more _ head tail inductionHypothesis =>
    intro element inside
    rcases List.mem_cons.mp inside with rfl | inside
    · obtain ⟨rfl, skipped⟩ := head
      refine ⟨skipped, ?_⟩
      cases tail with
      | nothing closed => exact stops_of_sign closed (by decide)
      | more separated => exact stops_of_separated separated
    · exact inductionHypothesis element inside

theorem mem_of_lookup {ν : Type} {members : List (String × ν)} {key : String} {value : ν}
    (found : members.lookup key = some value) : (key, value) ∈ members := by
  obtain ⟨before, after, rfl, -⟩ := List.lookup_eq_some_iff.mp found
  simp

/-- The texts that are written at the keys of an object. -/
def texts (members : List (String × Span)) : List (String × List Char) :=
  members.map fun member => (member.1, member.2.written)

/-- A document is an object that has the given keys, each with the text of its value. -/
def Writes (document : List Char) (members : List (String × List Char)) : Prop :=
  ∃ spans, Object document spans ∧ texts spans = members

/-- A document is a list that has elements with the given texts. -/
def Lists (document : List Char) (elements : List (List Char)) : Prop :=
  ∃ spans, Sequence document spans ∧ spans.map Span.written = elements

theorem Grammar.Object.unique {document : List Char} {spans others : List (String × Span)}
    (object : Object document spans) (other : Object document others) : spans = others := by
  obtain ⟨begins, spelled, -⟩ := object
  obtain ⟨beginsToo, spelledToo, -⟩ := other
  cases begins.symm.trans beginsToo
  exact (spelled_unique spelled spelledToo).1

theorem Writes.unique {document : List Char} {members others : List (String × List Char)}
    (writes : Writes document members) (other : Writes document others) : members = others := by
  obtain ⟨spans, object, rfl⟩ := writes
  obtain ⟨otherSpans, otherObject, rfl⟩ := other
  rw [object.unique otherObject]

/-- An object is no list. -/
theorem Writes.not_lists {document : List Char} {members : List (String × List Char)}
    {elements : List (List Char)} (writes : Writes document members) : ¬ Lists document elements := by
  rintro ⟨otherSpans, ⟨beginsToo, -⟩, -⟩
  obtain ⟨spans, ⟨begins, -⟩, -⟩ := writes
  cases begins.symm.trans beginsToo

theorem lookup_texts (members : List (String × Span)) (key : String) :
    (texts members).lookup key = (members.lookup key).map Span.written := by
  induction members with
  | nil => rfl
  | cons member members inductionHypothesis =>
    have here : (texts (member :: members)).lookup key =
        if key == member.1 then some member.2.written else (texts members).lookup key := by
      rw [texts, List.map_cons, List.lookup_cons]
      cases key == member.1 <;> rfl
    rw [here, inductionHypothesis, List.lookup_cons]
    cases key == member.1 <;> rfl

/-- What is written at a key is a value and nothing else. -/
theorem Writes.skipped {document : List Char} {members : List (String × List Char)}
    (writes : Writes document members) {key : String} {text : List Char}
    (found : members.lookup key = some text) : Skipped text [] := by
  obtain ⟨spans, ⟨-, spelled, -⟩, rfl⟩ := writes
  rw [lookup_texts, Option.map_eq_some_iff] at found
  obtain ⟨span, found, rfl⟩ := found
  have holds := holds_of_spelled spelled _ (mem_of_lookup found)
  exact (Rule.Independent.skipped.written_iff (a := ()) holds).mpr holds.value

end ComponentInstall.Json
