import ComponentInstall.Proofs.Json.Collections

/-!
# Decoders follow their rules

Texts, lists and records are decoded from text as their rules say. A decoder of records follows the rule
of its form once the values of its fields follow theirs, which is all that has to be shown for a new
form.
-/

namespace ComponentInstall.Json

open Grammar

variable {α β σ : Type}

namespace Decoder

/-- What is shown is the first character behind the gaps. -/
theorem follows_present : present.Follows fun input c rest =>
    pastGaps input = rest ∧ rest.head? = some c := by
  apply Reader.Follows.past_gaps fun input c rest => input = rest ∧ rest.head? = some c
  apply Reader.Follows.of_peek
  · intro position c rest
    simp only [Reader.not_reads_failNext, false_iff]
    rintro ⟨rfl, none⟩
    cases none
  · intro next tail position c rest
    rw [Reader.reads_pure]
    constructor
    · rintro ⟨rfl, rfl⟩
      exact ⟨rfl, rfl⟩
    · rintro ⟨rfl, same⟩
      exact ⟨Option.some.inj same, rfl⟩

/-- A decoder that looks at the first character follows a rule if it does for each of them. -/
theorem follows_of_present (rule : Rule β) {second : Char → Reader β}
    (nothing : ∀ b rest, ¬ rule [] b rest)
    (something : ∀ c tail position b rest,
      (second c).Reads ⟨c :: tail, position⟩ b rest ↔ rule (c :: tail) b rest) :
    (present >>= second).Follows fun input b rest => rule (pastGaps input) b rest := by
  constructor
  intro cursor b rest
  rw [follows_present.reads_bind fun _ start => rule start b rest]
  · constructor
    · rintro ⟨c, start, ⟨rfl, -⟩, allowed⟩
      exact allowed
    · intro allowed
      cases held : pastGaps cursor.rest with
      | nil => exact absurd (held ▸ allowed) (nothing b rest)
      | cons c tail => exact ⟨c, _, ⟨rfl, rfl⟩, held ▸ allowed⟩
  · rintro c start position ⟨-, first⟩
    obtain ⟨tail, rfl⟩ := List.head?_eq_some_iff.mp first
    exact something c tail position b rest

theorem follows_textNamed (expected : String) : (textNamed expected).reader.Follows Quoted := by
  apply follows_of_present fun input (s : String) rest =>
    ∃ behind, input = '\x22' :: behind ∧ Characters behind s.toList rest
  · simp
  · intro c tail position s rest
    by_cases quote : c = '\x22'
    · subst quote
      simp [Reader.reads_take, follows_textBody.reads_iff]
    · simp [quote]

theorem follows_list {decoder : Decoder α} {rule : Rule α} (follows : decoder.reader.Follows rule)
    (consumes : rule.Consumes) (opens : rule.Opens) : decoder.list.reader.Follows (Listed rule) := by
  have inside := (Reader.follows_elements follows consumes opens).closedBy Reader.follows_endOfList
  apply Reader.Follows.placed
  apply follows_of_present fun input as rest =>
    ∃ inside middle, input = '[' :: inside ∧ Elements rule true inside as middle ∧
      pastGaps middle = ']' :: rest
  · simp
  · intro c tail position as rest
    by_cases bracket : c = '['
    · subst bracket
      simp [Reader.reads_take, inside.reads_iff, Rule.sign]
    · simp [bracket]

/-- Data that may be absent is given by the word for it, or it is the data itself, which must begin
otherwise. -/
theorem follows_optional {decoder : Decoder α} {rule : Rule α} (follows : decoder.reader.Follows rule)
    (gapless : ∀ {input a rest}, rule (pastGaps input) a rest ↔ rule input a rest)
    (unlike : ∀ {input a rest}, rule input a rest → (pastGaps input).head? ≠ some 'n') :
    decoder.optional.reader.Follows fun input result rest =>
      Null input rest ∧ result = none ∨ ∃ a, rule input a rest ∧ result = some a := by
  refine (Reader.Follows.past_gaps (fun input result rest =>
    input = ['n', 'u', 'l', 'l'] ++ rest ∧ result = none ∨
      ∃ a, rule input a rest ∧ result = some a) ?_).congr ?_
  · apply Reader.Follows.of_peek
    · intro position result rest
      simp [Reader.reads_map, follows.reads_iff, eq_comm]
    · intro c tail position result rest
      by_cases letter : c = 'n'
      · subst letter
        have word := (Reader.follows_literal ['u', 'l', 'l']).map fun _ => (none : Option α)
        have other (a : α) : ¬ rule ('n' :: tail) a rest := fun allowed => unlike allowed rfl
        simp [Reader.reads_take, word.reads_iff, other, eq_comm]
      · simp [letter, Reader.reads_map, follows.reads_iff, eq_comm]
  · intro input result rest
    simp only [gapless]
    rfl

/-- Data that must pass a check. -/
theorem follows_refine {decoder : Decoder α} {rule : Rule α} {check : α → Except String β}
    (follows : decoder.reader.Follows rule) :
    (decoder.refine check).reader.Follows fun input b rest =>
      ∃ a, rule input a rest ∧ check a = .ok b := by
  refine (@Reader.Follows.bind _ _ _ _ _ (fun a input b rest => check a = .ok b ∧ input = rest)
    follows fun a => ⟨fun cursor {b rest} => ?_⟩).congr ?_
  · cases check a <;> simp
  intro input b rest
  constructor
  · rintro ⟨a, middle, allowed, checked, rfl⟩
    exact ⟨a, allowed, checked⟩
  · rintro ⟨a, allowed, checked⟩
    exact ⟨a, rest, allowed, checked, rfl⟩

end Decoder

/-- The fields of a form follow rules for values, each of which takes some of the text. -/
structure Form.Follows (form : Form σ α) (values : String → σ → Rule σ) : Prop where
  follows : ∀ field ∈ form.fields, ∀ draft,
    (field.reader draft).Follows (values field.key draft)
  consumes : ∀ field ∈ form.fields, ∀ draft, (values field.key draft).Consumes
  opens : ∀ field ∈ form.fields, ∀ draft, (values field.key draft).Opens

namespace Form

variable {form : Form σ α} {values : String → σ → Rule σ}

theorem of_field? {key : String} {field : Field σ} (found : form.field? key = some field) :
    field ∈ form.fields ∧ field.key = key :=
  ⟨List.mem_of_find?_eq_some found, by simpa using List.find?_some found⟩

theorem follows_settled (outcome : Except Cause α) :
    (settled outcome).Follows fun input a rest => outcome = .ok a ∧ input = rest := by
  cases outcome with
  | error cause => exact ⟨fun cursor => by simp [settled]⟩
  | ok a => exact ⟨fun cursor => by simp [settled]⟩

theorem follows_readMember (form : Form σ α) (formFollows : form.Follows values) (key : String)
    (draft : σ) : (form.readMember key draft).Follows (Member form values key draft) := by
  rw [readMember]
  cases found : form.field? key with
  | none =>
    refine (Reader.follows_colon.bind fun _ => Reader.follows_skip.map fun _ => draft).congr ?_
    intro input next rest
    constructor
    · rintro ⟨_, behind, colon, _, skipped, rfl⟩
      exact .unknown found colon skipped
    · intro member
      cases member with
      | unknown _ colon skipped => exact ⟨(), _, colon, (), skipped, rfl⟩
      | known known => cases found.symm.trans known
  | some field =>
    obtain ⟨declared, rfl⟩ := of_field? found
    dsimp only
    cases fresh : field.filled draft with
    | true =>
      constructor
      intro cursor next rest
      simp only [if_true, Reader.not_reads_fail, false_iff]
      intro member
      cases member with
      | unknown absent => cases found.symm.trans absent
      | known known isFresh =>
        cases found.symm.trans known
        cases fresh.symm.trans isFresh
    | false =>
      refine (Reader.follows_colon.bind fun _ =>
        formFollows.follows field declared draft).congr ?_
      intro input next rest
      constructor
      · rintro ⟨_, behind, colon, value⟩
        exact .known found fresh colon value
      · intro member
        cases member with
        | unknown absent => cases found.symm.trans absent
        | known _ _ colon value => exact ⟨(), _, colon, value⟩

theorem length_le_of_member (formFollows : form.Follows values) {key : String} {draft next : σ}
    {input rest : List Char} (member : Member form values key draft input next rest) :
    rest.length ≤ input.length := by
  cases member with
  | unknown absent colon skipped =>
    have fewer := length_lt_of_pastGaps colon
    have shorter := length_lt_of_skipped skipped
    omega
  | known found fresh colon value =>
    obtain ⟨declared, rfl⟩ := of_field? found
    have fewer := length_lt_of_pastGaps colon
    have shorter := formFollows.consumes _ declared draft value
    omega

theorem follows_readElements {fields : List (Field σ)}
    (follows : ∀ field ∈ fields, ∀ draft, (field.reader draft).Follows (values field.key draft))
    (opens : ∀ field ∈ fields, ∀ draft, (values field.key draft).Opens) (first : Bool) (draft : σ) :
    (readElements fields first draft).Follows (Fields values fields first draft) := by
  induction fields generalizing first draft with
  | nil =>
    constructor
    intro cursor last rest
    rw [readElements, Reader.reads_pure]
    constructor
    · rintro ⟨rfl, rfl⟩
      exact .all
    · intro all
      cases all
      exact ⟨rfl, rfl⟩
  | cons field fields inductionHypothesis =>
    have later := inductionHypothesis
      (fun other member => follows other (List.mem_cons_of_mem field member))
      (fun other member => opens other (List.mem_cons_of_mem field member)) false
    constructor
    intro cursor last rest
    rw [readElements, (Reader.follows_moreElements first).reads_bind fun more start =>
      if more then ∃ next middle, values field.key draft start next middle ∧
        Fields values fields false next middle last rest
      else draft = last ∧ start = rest]
    · constructor
      · rintro ⟨more, start, allowed, goes⟩
        cases more with
        | false =>
          obtain ⟨closed, tail, rfl⟩ := allowed
          obtain ⟨rfl, rfl⟩ := goes
          exact .nothing closed
        | true =>
          obtain ⟨next, middle, value, given⟩ := goes
          exact .more allowed.1 value given
      · intro given
        cases given with
        | nothing closed => exact ⟨false, _, ⟨closed, _, rfl⟩, rfl, rfl⟩
        | more separated value given =>
          obtain ⟨c, behind, begins, notClosed⟩ := opens field List.mem_cons_self draft value
          rw [pastGaps_of_separated separated] at begins
          exact ⟨true, _, ⟨separated, c, behind, begins, notClosed⟩, _, _, value, given⟩
    · intro more start position allowed
      cases more with
      | false => simp
      | true =>
        exact (follows field List.mem_cons_self draft).reads_bind _ fun next middle between _ =>
          (later next).reads_iff ⟨middle, between⟩

theorem follows_memberBody (formFollows : form.Follows values) :
    form.memberBody.Follows fun input a rest =>
      ∃ draft, Members (Member form values) true form.blank input draft rest ∧
        form.finish draft = .ok a := by
  refine ((Reader.follows_members (form.follows_readMember formFollows)
    (length_le_of_member formFollows) form.blank).bind fun draft =>
      follows_settled (form.ofMembers draft)).congr ?_
  intro input a rest
  constructor
  · rintro ⟨draft, _, members, finished, rfl⟩
    exact ⟨draft, members, mapError_eq_ok_iff.mp finished⟩
  · rintro ⟨draft, members, finished⟩
    exact ⟨draft, rest, members, mapError_eq_ok_iff.mpr finished, rfl⟩

theorem follows_elementBody (formFollows : form.Follows values) :
    form.elementBody.Follows fun input a rest =>
      ∃ draft, Fields values form.fields true form.blank input draft rest ∧
        form.finish draft = .ok a := by
  refine ((follows_readElements formFollows.follows formFollows.opens true form.blank).bind
    fun draft => follows_settled (form.ofElements draft)).congr ?_
  intro input a rest
  constructor
  · rintro ⟨draft, _, fields, finished, rfl⟩
    exact ⟨draft, fields, mapError_eq_ok_iff.mp finished⟩
  · rintro ⟨draft, fields, finished⟩
    exact ⟨draft, rest, fields, mapError_eq_ok_iff.mpr finished, rfl⟩

/-- Records are read as the rule of their form says. -/
theorem follows_reader (formFollows : form.Follows values) :
    form.decoder.reader.Follows (Record form values) := by
  have object := (follows_memberBody formFollows).closedBy Reader.follows_endOfObject
  have list := (follows_elementBody formFollows).closedBy Reader.follows_endOfList
  apply Reader.Follows.placed
  refine (Decoder.follows_of_present (fun input a rest =>
    (∃ inside middle, input = '\x7b' :: inside ∧
      (∃ draft, Members (Member form values) true form.blank inside draft middle ∧
        form.finish draft = .ok a) ∧ pastGaps middle = '\x7d' :: rest) ∨
    ∃ inside middle, input = '[' :: inside ∧
      (∃ draft, Fields values form.fields true form.blank inside draft middle ∧
        form.finish draft = .ok a) ∧ pastGaps middle = ']' :: rest) ?_ ?_).congr ?_
  · simp
  · intro c tail position a rest
    by_cases brace : c = '\x7b'
    · subst brace
      simp [Reader.reads_take, object.reads_iff, Rule.sign]
    by_cases bracket : c = '['
    · subst bracket
      simp [Reader.reads_take, list.reads_iff, Rule.sign]
    · simp [brace, bracket]
  · intro input a rest
    constructor
    · rintro (⟨inside, middle, begins, ⟨draft, members, finished⟩, ends⟩ |
        ⟨inside, middle, begins, ⟨draft, fields, finished⟩, ends⟩)
      · exact .object begins members ends finished
      · exact .list begins fields ends finished
    · intro record
      cases record with
      | object begins members ends finished =>
        exact Or.inl ⟨_, _, begins, ⟨_, members, finished⟩, ends⟩
      | list begins fields ends finished =>
        exact Or.inr ⟨_, _, begins, ⟨_, fields, finished⟩, ends⟩

end Form

/-- A document is decoded if a rule allows it up to the gaps at its end. -/
theorem Decoder.ofText_eq_ok_iff {decoder : Decoder α} {rule : Rule α}
    (follows : decoder.reader.Follows rule) {text : String} {a : α} :
    decoder.ofText text = .ok a ↔ ∃ rest, rule text.toList a rest ∧ pastGaps rest = [] := by
  rw [Decoder.ofText, Reader.document_eq_ok_iff]
  constructor
  · rintro ⟨⟨rest, position⟩, read, ends⟩
    exact ⟨rest, (follows.reads_iff (.start text)).mp ⟨position, read⟩, ends⟩
  · rintro ⟨rest, allowed, ends⟩
    obtain ⟨position, read⟩ := (follows.reads_iff (.start text)).mpr allowed
    exact ⟨⟨rest, position⟩, read, ends⟩

end ComponentInstall.Json
